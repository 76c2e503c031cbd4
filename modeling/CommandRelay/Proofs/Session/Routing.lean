import CommandRelay.Agent.Handler
import CommandRelay.Proofs.Text.Ends

/-!
# Routes and the texts that carry them

A client sends the route of a session as one text, and the agent reads the route back.  What is read
from a text always has the same form: the user, if one is named, is a trimmed text other than the
mark of the default user, and the container is a trimmed text without an `@`.  A route of this form
comes back from its text, and no other route does, since what comes back has this form.

## Main definitions

* `Route.Travels` — the form of the routes that come back.

## Main results

* `Route.travels_parse` — what is read from a text has this form.
* `Route.parse_display` — a route of this form is read back from its text.
* `Route.recovered_iff` — the agent recovers a route just if it has this form.
-/

namespace CommandRelay

namespace Route

/-- The form of the routes that come back from their texts. -/
structure Travels (r : Route) : Prop where
  /-- A user that is named is not empty, has no blanks at its ends, and is not the mark of the
  default user. -/
  user : ∀ name, r.user = some name →
    name ≠ "" ∧ Text.trimmed name = name ∧ name ≠ defaultUser
  /-- The container is not empty, has no blanks at its ends, and no `@` in it. -/
  container : r.container ≠ "" ∧ Text.trimmed r.container = r.container ∧ '@' ∉ r.container.toList

/-! ## Reading -/

/-- A text with an `@` in it is cut at the last one. -/
lemma parseChars_append (user : List Char) {container : List Char} (h : '@' ∉ container) :
    parseChars (user ++ '@' :: container) =
      ⟨userOf (Text.trim user), containerOf (Text.trim container)⟩ := by
  simp only [parseChars, Text.cutLast?_eq_some_iff.2 ⟨rfl, h⟩, Option.getD_some]

/-- What is read from a text is a user and a container without an `@`. -/
lemma exists_parseChars (raw : List Char) : ∃ user container, '@' ∉ container ∧
    parseChars raw = ⟨userOf (Text.trim user), containerOf (Text.trim container)⟩ := by
  cases hcut : Text.cutLast? '@' raw with
  | none => exact ⟨raw, [], List.not_mem_nil, by simp only [parseChars, hcut, Option.getD_none]⟩
  | some halves =>
    obtain ⟨user, container⟩ := halves
    obtain ⟨rfl, hcontainer⟩ := Text.cutLast?_eq_some_iff.1 hcut
    exact ⟨user, container, hcontainer, parseChars_append user hcontainer⟩

/-- A name is that of a user unless it is empty or the default one. -/
lemma userOf_eq_some {name : List Char} {user : String} :
    userOf name = some user ↔ name ≠ [] ∧ name ≠ defaultUser.toList ∧
      user = String.ofList name := by
  unfold userOf
  split_ifs with h
  · exact ⟨nofun, fun hname => (h.elim hname.1 hname.2.1).elim⟩
  · rw [not_or] at h
    exact ⟨fun huser => ⟨h.1, h.2, (Option.some.inj huser).symm⟩, fun huser => by rw [huser.2.2]⟩

/-- **What is read from a text** has the form of the routes that come back. -/
lemma travels_parse (raw : String) : (parse raw).Travels := by
  obtain ⟨user, container, hcontainer, hparse⟩ := exists_parseChars raw.toList
  rw [parse, hparse]
  constructor
  · intro name hname
    obtain ⟨hne, hmark, rfl⟩ := userOf_eq_some.1 hname
    refine ⟨fun hempty => hne ?_, ?_, fun hdefault => hmark ?_⟩
    · rw [← String.toList_ofList (l := Text.trim user), hempty]
      rfl
    · rw [Text.trimmed, String.toList_ofList, Text.trim_trim]
    · rw [← String.toList_ofList (l := Text.trim user), hdefault]
  · dsimp only
    rw [containerOf]
    split_ifs with hempty
    · decide
    · refine ⟨fun h => hempty ?_, ?_, fun hat => hcontainer (Text.mem_trim ?_)⟩
      · rw [← String.toList_ofList (l := Text.trim container), h]
        rfl
      · rw [Text.trimmed, String.toList_ofList, Text.trim_trim]
      · rwa [String.toList_ofList] at hat

/-! ## Reading back -/

/-- A trimmed text as characters. -/
lemma trim_toList {s : String} (h : Text.trimmed s = s) : Text.trim s.toList = s.toList := by
  rw [← String.toList_ofList (l := Text.trim s.toList)]
  exact congrArg String.toList h

/-- **A route of this form is read back from its text.**

**Proof sketch.** There is no `@` in the container, so the text is cut where the two halves were put
together.  Trimming does nothing to either half, and neither of them is taken for a default but the
mark that stands for the default user. -/
lemma parse_display {r : Route} (h : r.Travels) : parse r.display = r := by
  obtain ⟨hempty, htrimmed, hat⟩ := h.container
  have htext : r.display.toList =
      (r.user.getD defaultUser).toList ++ '@' :: r.container.toList := by
    simp [display, String.toList_append]
  have hcontainer : containerOf (Text.trim r.container.toList) = r.container := by
    rw [trim_toList htrimmed, containerOf, if_neg (by simpa using hempty), String.ofList_toList]
  have huser : userOf (Text.trim (r.user.getD defaultUser).toList) = r.user := by
    cases hname : r.user with
    | none => decide
    | some name =>
      obtain ⟨hne, hsame, hmark⟩ := h.user name hname
      rw [Option.getD_some, trim_toList hsame, userOf_eq_some]
      exact ⟨by simpa using hne, fun heq => hmark (String.toList_inj.1 heq),
        (String.ofList_toList).symm⟩
  rw [parse, htext, parseChars_append _ hat, hcontainer, huser]

/-- **The agent recovers a route** from the name that the client sends just if it has this form.  In
particular, to read a text, write down what was read and read that changes nothing more. -/
theorem recovered_iff :
    (∀ raw : String, parse (parse raw).display = parse raw) ∧
      ∀ r : Route, (Agent.Handler.ofUser r.display).route = some r ↔ r.Travels := by
  refine ⟨fun raw => parse_display (travels_parse raw), fun r => ?_⟩
  rw [Agent.Handler.ofUser, Option.some.injEq]
  exact ⟨fun h => h ▸ travels_parse r.display, parse_display⟩

/-- Only the last `@` divides a text, so a user may hold one, and a container may not. -/
example : (⟨some "ann@home", "vm"⟩ : Route).display = "ann@home@vm" ∧
    parse "ann@home@vm" = ⟨some "ann@home", "vm"⟩ ∧
    parse (⟨some "ann", "home@vm"⟩ : Route).display = ⟨some "ann@home", "vm"⟩ := by
  decide

end Route

end CommandRelay
