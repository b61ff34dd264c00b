import WebTidy.Proofs.Json.Nesting
import WebTidy.Web.App

/-!
# Posted bodies

What the application reads from the body of a posted request: the members of an object, or nothing
but its depth.
-/

namespace WebTidy

/-- The request posts its body to an endpoint. -/
structure Request.PostsTo (r : Request) (e : Endpoint) : Prop where
  method : Text.upper r.method = "POST".toList
  route : Route.ofPath? (targetPath r.target) = some (.endpoint e)
  no_socket : asksWebSocket r.target = false

/-- The body is within the limit. -/
def App.Admits (app : App) (r : Request) : Prop :=
  ∀ limit : Int, app.limit = some limit → (r.body.length : Int) ≤ limit

namespace App

variable {app : App} {r : Request} {e : Endpoint}

/-- The members of the object in the body; any other body has none. -/
def members (app : App) (r : Request) : Members :=
  if r.contentType.any isJsonType then
    match Json.ofBytes app.nesting r.body with
    | .ok (.obj data) => data
    | _ => []
  else []

/-- The body is to be read, and has more open brackets at some place than can be. -/
def Overnested (app : App) (r : Request) : Prop :=
  r.contentType.any isJsonType = true ∧
    ∃ t, Json.decode? r.body = some t ∧ Json.OpensBeyond app.nesting t

theorem within_limit (h : app.Admits r) :
    (app.limit.any fun limit : Int => decide (limit < r.body.length)) = false := by
  cases hl : app.limit with
  | none => rfl
  | some limit =>
    have := h limit hl
    simp only [Option.any_some, decide_eq_false_iff_not]
    omega

theorem readBody_of_overnested (h : app.Admits r) (hdeep : app.Overnested r) :
    app.readBody r = .tooDeep := by
  have hread := (Json.ofBytes_eq_tooDeep_iff _ _).mpr hdeep.2
  simp [readBody, within_limit h, hdeep.1, hread]

theorem readBody_of_not_overnested (h : app.Admits r) (hdeep : ¬ app.Overnested r) :
    app.readBody r = .members (app.members r) := by
  rw [readBody, members, within_limit h, Bool.and_false]
  rw [Overnested, ← Json.ofBytes_eq_tooDeep_iff, not_and] at hdeep
  cases hc : r.contentType.any isJsonType with
  | false => simp
  | true =>
    simp only [Bool.not_true, Bool.false_eq_true, if_false, if_true]
    cases hread : Json.ofBytes app.nesting r.body with
    | ok value => cases value <;> rfl
    | error e =>
      cases e with
      | malformed => rfl
      | tooDeep => exact absurd hread (hdeep hc)

/-- A body with members was read to its end. -/
theorem not_overnested_of_members {member : String} {value : Json}
    (h : Table.get? member (app.members r) = some value) : ¬ app.Overnested r := by
  rintro ⟨-, hdeep⟩
  rw [members, (Json.ofBytes_eq_tooDeep_iff _ _).mpr hdeep] at h
  simp [Table.get?] at h

theorem post_mem_methods (e : Endpoint) : "POST".toList ∈ (Route.endpoint e).methods := by
  cases e <;> decide

theorem answer_post (app : App) (r : Request) (e : Endpoint) :
    app.answer r "POST".toList (.endpoint e) = (app.post e r).withCors := by
  have hoptions : "POST".toList ≠ "OPTIONS".toList := by decide
  rw [answer, if_neg hoptions]

theorem handle_of_postsTo (h : r.PostsTo e) : app.handle r = (app.post e r).withCors := by
  have hhead : r.method ≠ "HEAD".toList := by
    intro hm
    have hpost := h.method
    rw [hm] at hpost
    exact absurd hpost (by decide +kernel)
  unfold handle
  rw [if_neg hhead, if_neg (by simp [h.no_socket]), respond, h.route, h.method]
  simp only [if_pos (post_mem_methods e), answer_post]

/-! ## Bodies in JSON -/

theorem members_of_ofBytes {settings : Settings} {data : Members}
    (htype : r.contentType = some "application/json".toList)
    (h : Json.ofBytes nestingLimit r.body = .ok (.obj data)) :
    (ofSettings settings).members r = data := by
  have hjson : r.contentType.any isJsonType = true := by
    rw [htype]
    decide +kernel
  have hread : Json.ofBytes (ofSettings settings).nesting r.body = .ok (.obj data) := h
  rw [members, if_pos hjson, hread]

theorem admits_of_length_le (h : (r.body.length : Int) ≤ Settings.default.maxInputBytes) :
    (ofSettings Settings.default).Admits r := by
  rintro limit ⟨⟩
  exact h

end App

end WebTidy
