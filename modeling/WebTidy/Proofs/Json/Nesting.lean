import Mathlib
import WebTidy.Json.Encoding

/-!
# Nesting

Reading fails for depth exactly if some tokens in front, all of which fit, leave more brackets open
than may be. Each token opens or closes at most one, so that the brackets can be counted.
-/

namespace WebTidy.Json

def Token.opens : Token → Bool
  | openArray | openObject => true
  | _ => false

def Token.closes : Token → Bool
  | closeArray | closeObject => true
  | _ => false

/-- The tokens fit one behind the other, and more than `nesting` of the brackets that they open are
not closed. -/
def LeavesOpen (nesting : Nat) (ts : List Token) : Prop :=
  (ts.foldlM Reading.step? .start).isSome ∧
    nesting + ts.countP Token.closes < ts.countP Token.opens

/-- The text, or a part in front of it, leaves more than `nesting` brackets open. -/
def OpensBeyond (nesting : Nat) (t : Text) : Prop :=
  ∃ ts, ts <+: tokens t.length t ∧ LeavesOpen nesting ts

namespace Reading

variable {r after : Reading}

theorem depth_step? {token : Token} (h : r.step? token = some after) :
    after.depth + token.closes.toNat = r.depth + token.opens.toNat := by
  revert h
  fun_cases step? r token <;> rintro ⟨⟩ <;> rfl

/-- The depth is counted by the brackets that were read. -/
theorem depth_foldlM_step? {ts : List Token} (h : ts.foldlM step? r = some after) :
    after.depth + ts.countP Token.closes = r.depth + ts.countP Token.opens := by
  induction ts generalizing r with
  | nil =>
    cases h
    rfl
  | cons token ts ih =>
    obtain ⟨next, hnext, hrest⟩ := Option.bind_eq_some_iff.mp h
    have hstep := depth_step? hnext
    have htail := ih hrest
    rw [List.countP_cons, List.countP_cons]
    cases hc : token.closes <;> cases ho : token.opens <;> simp [hc, ho] at hstep ⊢ <;> omega

/-- Some of the tokens in front can be read, and lead too deep. -/
def LeadsTooDeep (nesting : Nat) (r : Reading) (ts : List Token) : Prop :=
  ∃ us after, us <+: ts ∧ us.foldlM step? r = some after ∧ nesting < after.depth

theorem leadsTooDeep_of_lt {nesting : Nat} (h : nesting < r.depth) (ts : List Token) :
    LeadsTooDeep nesting r ts :=
  ⟨[], r, List.nil_prefix, rfl, h⟩

theorem not_leadsTooDeep_nil {nesting : Nat} (hr : r.depth ≤ nesting) :
    ¬ LeadsTooDeep nesting r [] := by
  rintro ⟨us, after, hus, hfits, hlt⟩
  rw [List.prefix_nil.mp hus] at hfits
  cases hfits
  omega

theorem leadsTooDeep_cons_iff {nesting : Nat} (hr : r.depth ≤ nesting) {token : Token}
    {ts : List Token} :
    LeadsTooDeep nesting r (token :: ts) ↔
      ∃ next, r.step? token = some next ∧ LeadsTooDeep nesting next ts := by
  constructor
  · rintro ⟨us, after, hus, hfits, hlt⟩
    rcases List.prefix_cons_iff.mp hus with rfl | ⟨vs, rfl, hvs⟩
    · cases hfits
      omega
    · obtain ⟨next, hnext, hrest⟩ := Option.bind_eq_some_iff.mp hfits
      exact ⟨next, hnext, vs, after, hvs, hrest, hlt⟩
  · rintro ⟨next, hnext, us, after, hus, hfits, hlt⟩
    refine ⟨token :: us, after, List.cons_prefix_cons.mpr ⟨rfl, hus⟩, ?_, hlt⟩
    rw [List.foldlM_cons, hnext]
    exact hfits

/-- Reading fails for depth at the first token that leads too deep. -/
theorem run_eq_tooDeep_iff {nesting : Nat} (hr : r.depth ≤ nesting) (ts : List Token) :
    r.run nesting ts = .error .tooDeep ↔ LeadsTooDeep nesting r ts := by
  induction ts generalizing r with
  | nil =>
    rw [run]
    exact iff_of_false (by cases r.value? <;> simp) (not_leadsTooDeep_nil hr)
  | cons token ts ih =>
    rw [run, leadsTooDeep_cons_iff hr]
    cases hstep : r.step? token with
    | none => simp
    | some next =>
      dsimp only
      split
      · next hlt => exact iff_of_true rfl ⟨next, rfl, leadsTooDeep_of_lt hlt ts⟩
      · next hle =>
        rw [ih (not_lt.mp hle)]
        simp

end Reading

theorem read_eq_tooDeep_iff (nesting : Nat) (t : Text) :
    read nesting t = .error .tooDeep ↔ OpensBeyond nesting t := by
  have hstart : Reading.start.depth = 0 := rfl
  rw [read, Reading.run_eq_tooDeep_iff (hstart ▸ Nat.zero_le nesting)]
  constructor
  · rintro ⟨us, after, hus, hfits, hlt⟩
    have hdepth := Reading.depth_foldlM_step? hfits
    exact ⟨us, hus, by rw [hfits]; rfl, by omega⟩
  · rintro ⟨us, hus, hfits, hlt⟩
    obtain ⟨after, hafter⟩ := Option.isSome_iff_exists.mp hfits
    have hdepth := Reading.depth_foldlM_step? hafter
    exact ⟨us, after, hus, hafter, by omega⟩

theorem ofBytes_eq_tooDeep_iff (nesting : Nat) (bytes : Bytes) :
    ofBytes nesting bytes = .error .tooDeep ↔
      ∃ t, decode? bytes = some t ∧ OpensBeyond nesting t := by
  unfold ofBytes
  cases decode? bytes with
  | none => simp
  | some t => simp [read_eq_tooDeep_iff]

/-! ## Brackets in a row -/

theorem tokens_openArray (steps : Nat) (t : Text) :
    tokens (steps + 1) ('[' :: t) = .openArray :: tokens steps t := rfl

theorem tokens_replicate_openArray (n steps : Nat) (t : Text) :
    tokens (n + steps) (List.replicate n '[' ++ t) =
      List.replicate n .openArray ++ tokens steps t := by
  induction n with
  | zero => simp
  | succ n ih =>
    rw [Nat.succ_add, List.replicate_succ, List.cons_append, tokens_openArray, ih]
    rfl

/-- An array may begin wherever an item may. -/
theorem isSome_replicate_openArray (n : Nat) (stack : List Frame) :
    ((List.replicate n Token.openArray).foldlM Reading.step? ⟨.itemOrEnd, stack⟩).isSome := by
  induction n generalizing stack with
  | zero => rfl
  | succ n ih => exact ih (.array [] :: stack)

/-- Brackets in a row lead too deep, whatever stands behind them. -/
theorem opensBeyond_replicate {nesting n : Nat} (h : nesting < n) (t : Text) :
    OpensBeyond nesting (List.replicate n '[' ++ t) := by
  refine ⟨List.replicate n .openArray, ?_, ?_, ?_⟩
  · rw [List.length_append, List.length_replicate, tokens_replicate_openArray]
    exact List.prefix_append _ _
  · obtain ⟨n, rfl⟩ := Nat.exists_eq_succ_of_ne_zero (Nat.ne_zero_of_lt h)
    exact isSome_replicate_openArray n []
  · simp [List.countP_replicate, Token.closes, Token.opens, h]

end WebTidy.Json
