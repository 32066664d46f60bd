import Retrieval.Proofs.Failures

/-!
The key of the service. What a call for a route comes to is settled by the header with its key
before anything else in the call is looked at. Main statement: the key, and only the key, has a call
processed, and any other header that can be compared with it is turned down before anything is sent.
A header can be compared with the key only if both are within ASCII; a key that is not opens to no
call at all.
-/

namespace Retrieval.Api

open Retrieval.Http (Client Link)

/-- What a call gives for the key: the first header of that name; nothing if there is none. -/
def givenKey (headers : Entries String) : String := (header? "x-api-key" headers).getD ""

/-- Texts that can be compared without a hint to where they differ: both are within ASCII. -/
def AreComparable (given key : String) : Prop :=
  Http.Call.isAscii given = true ∧ Http.Call.isAscii key = true

instance (given key : String) : Decidable (AreComparable given key) :=
  inferInstanceAs (Decidable (_ ∧ _))

/-- What a route that takes bodies makes of a call, however the call got to it. -/
def handle (s : Service) (c : Call) : Route → Served
  | .query => serveBody s c readQuery (serveQuery s)
  | .batch => serveBody s c readBatch (serveBatch s)
  | _ => return .ok methodNotAllowed

/-- Answers a content by its schema, without regard to any key. -/
def answer {α : Type} (read : Schema.Reader α) (serve : α → Served) (content : Content) : Served :=
  match readContent read content with
  | .invalid issues => return .ok (invalidBody issues)
  | .valid b => serve b

/-- What a route makes of a content once the key is known to be right. -/
def process (s : Service) (content : Content) : Route → Served
  | .query => answer readQuery (serveQuery s) content
  | .batch => answer readBatch (serveBatch s) content
  | _ => return .ok methodNotAllowed

section Key

variable {s : Settings} {raw : String}

/-- The key of a service is the text of its setting, less the blanks at the ends. -/
theorem text_keySetting (hraw : Entries.get? keySetting s.bindings = some raw)
    (hne : Text.stripped raw ≠ "") : s.text keySetting none = .ok (Text.stripped raw) := by
  have hupper : Text.upper keySetting = keySetting := by decide
  have hfilled : raw ≠ "" := by
    rintro rfl
    exact hne (by decide)
  have hread : s.read keySetting = some (Text.stripped raw) := by
    rw [s.read_of_get? (by rwa [hupper]), if_neg hfilled]
  unfold Settings.text
  rw [hread]
  rfl

/-- The look at the key: what is given is compared with it if anything is, and if it can be. -/
theorem isAuthorized_eq {key : String} (hkey : s.text keySetting none = .ok key)
    (headers : Entries String) :
    isAuthorized s headers =
      if givenKey headers = "" then .ok false
      else if AreComparable (givenKey headers) key then .ok (givenKey headers == key)
      else .error .misuse := by
  unfold isAuthorized
  rw [hkey]
  simp only [Except.mapError, bind, Except.bind, String.isEmpty_iff, Bool.and_eq_true]
  rfl

end Key

variable {s : Service} {c : Call} {content : Content} {route : Route}

/-- A call on a route is settled by the look at its key. -/
theorem handle_eq (hroute : route = .query ∨ route = .batch)
    (hcontent : contentOf c = .ok content) :
    handle s c route =
      match isAuthorized s.settings c.headers with
      | .error e => return .error e
      | .ok false => return .ok unauthorized
      | .ok true => process s content route := by
  obtain rfl | rfl := hroute
  all_goals
    unfold handle serveBody
    rw [hcontent]
    rfl

theorem serve_eq_handle (hreach : c.route = .ok route) (hmethod : Text.upper c.method = "POST")
    (hroute : route = .query ∨ route = .batch) : serve s c = handle s c route := by
  unfold serve
  rw [hreach]
  simp only [hmethod, isWithoutData_post hroute]
  obtain rfl | rfl := hroute <;> rfl

/-- The key of a service, and nothing else, has a call with a body processed. A call that gives no
key, or another one, is turned down with nothing sent and nothing noted, whatever its body. What
cannot be compared with the key breaks the call off, likewise before anything is sent. -/
theorem only_key_opens {raw : String}
    (hraw : Entries.get? keySetting s.settings.bindings = some raw)
    (hne : Text.stripped raw ≠ "") (hroute : route = .query ∨ route = .batch)
    (hcontent : contentOf c = .ok content) :
    (givenKey c.headers = "" → ∀ st, handle s c route st = ⟨.ok unauthorized, [], st⟩) ∧
    (givenKey c.headers ≠ "" → AreComparable (givenKey c.headers) (Text.stripped raw) →
      if givenKey c.headers = Text.stripped raw then
        handle s c route = process s content route
      else ∀ st, handle s c route st = ⟨.ok unauthorized, [], st⟩) ∧
    (givenKey c.headers ≠ "" → ¬ AreComparable (givenKey c.headers) (Text.stripped raw) →
      ∀ st, handle s c route st = ⟨.error .misuse, [], st⟩) ∧
    (c.route = .ok route → Text.upper c.method = "POST" → serve s c = handle s c route) := by
  have hkey := text_keySetting hraw hne
  refine ⟨?nothing, ?comparable, ?incomparable, fun hreach hmethod =>
    serve_eq_handle hreach hmethod hroute⟩
  case nothing =>
    intro hgiven st
    rw [handle_eq hroute hcontent, isAuthorized_eq hkey, if_pos hgiven]
    rfl
  case comparable =>
    intro hgiven hcomparable
    have hauthorized : isAuthorized s.settings c.headers =
        .ok (givenKey c.headers == Text.stripped raw) := by
      rw [isAuthorized_eq hkey, if_neg hgiven, if_pos hcomparable]
    split
    case isTrue heq =>
      rw [handle_eq hroute hcontent, hauthorized, beq_iff_eq.mpr heq]
    case isFalse hdiffers =>
      intro st
      rw [handle_eq hroute hcontent, hauthorized, beq_eq_false_iff_ne.mpr hdiffers]
      rfl
  case incomparable =>
    intro hgiven hincomparable st
    rw [handle_eq hroute hcontent, isAuthorized_eq hkey, if_neg hgiven, if_neg hincomparable]
    rfl

/-- The call for the names of authors with any key. -/
def authorsCallWith (key : String) : Call := { authorsCall with headers := [("X-API-Key", key)] }

theorem givenKey_authorsCallWith (key : String) : givenKey (authorsCallWith key).headers = key := by
  have hname : ("X-API-Key".toLower == "x-api-key") = true := by decide +kernel
  simp [givenKey, header?, authorsCallWith, hname]

theorem contentOf_authorsCallWith (key : String) :
    contentOf (authorsCallWith key) = .ok (.data (.map authorsFields)) := by
  have hname : ("X-API-Key".toLower == "content-type") = false := by decide +kernel
  have hkind : header? "content-type" (authorsCallWith key).headers = none := by
    simp [header?, authorsCallWith, hname]
  unfold contentOf isJson
  rw [hkind]
  rfl

/-- The service of the authors with a key that is not within ASCII. -/
def accentedService : Service := { authorsService with settings := ⟨[("APP_API_KEY", "clé")]⟩ }

/-- The key opens to the call for authors, and another does not. An accent in the key of the service
has every call with a key break off. -/
theorem only_key_opens_authors :
    serve authorsService (authorsCallWith "test-key") =
      process authorsService (.data (.map authorsFields)) .query ∧
    (∀ st, handle authorsService (authorsCallWith "nope") .query st =
      ⟨.ok unauthorized, [], st⟩) ∧
    ∀ st, handle accentedService (authorsCallWith "nope") .query st =
      ⟨.error .misuse, [], st⟩ := by
  have hgiven := givenKey_authorsCallWith
  have hstripped : Text.stripped "test-key" = "test-key" := by decide
  have hplain : Entries.get? keySetting authorsService.settings.bindings = some "test-key" := rfl
  have haccented : Entries.get? keySetting accentedService.settings.bindings = some "clé" := rfl
  have hopens (key : String) :=
    only_key_opens hplain (by decide) (.inl rfl) (contentOf_authorsCallWith key)
  have hbroken :=
    only_key_opens haccented (by decide) (.inl rfl) (contentOf_authorsCallWith "nope")
  rw [hgiven] at hbroken
  refine ⟨?right, ?wrong, hbroken.2.2.1 (by decide) (by decide)⟩
  case right =>
    have h := hopens "test-key"
    rw [hgiven, hstripped] at h
    rw [h.2.2.2 posesQuery_authors.route posesQuery_authors.method]
    exact h.2.1 (by decide) (by decide)
  case wrong =>
    have h := hopens "nope"
    rw [hgiven, hstripped] at h
    exact h.2.1 (by decide) (by decide)

end Retrieval.Api
