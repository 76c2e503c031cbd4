import CommandRelay.Proofs.Json.Truncation
import CommandRelay.Proofs.Session.Carrier
import CommandRelay.Session.Launch

/-!
# Metadata that is cut short

A carrier may cut the text of the metadata short.  Wherever that happens, inside a key, inside an
escape or between two members, the reader says that the text ends too early.  So no part of a record
is taken for a shorter record, and only a carrier that delivers nothing at all is taken for one that
was sent nothing.

## Main results

* `Metadata.run_readMember` — a member as it is written, and exactly what follows it.
* `Metadata.noticesCut_readField`, `Metadata.noticesCut_readMember` — a cut inside one member.
* `Metadata.loopFrom_readMember_of_cut` — a cut anywhere among the members.
* `Metadata.decode_of_cut` — a text that is cut short.
* `Metadata.cut_refused` — what it means for a launch.
-/

namespace CommandRelay.Metadata

open Json Reader

/-! ## One member -/

/-- **One value.** What is written for a field is read into that field, and the others stay. -/
lemma run_readField (m r : Metadata) (f : Field) (s : Input) :
    (readField r f).run (Input.ofChars (m.valueText f) ++ s) = .ok (m.copyField r f, s) :=
  run_readField_of_isValueText (m.isValueText_valueText f) r s

/-- A key that stands next, after a comma if it is not the first, is read. -/
lemma run_nextKey_memberText (m : Metadata) (first : Bool) (f : Field) (s : Input) :
    (nextKey first).run
        (Input.ofChars ((if first then [] else [',']) ++ m.memberText f) ++ s) =
      .ok (some f.name.toList, some ':' :: (Input.ofChars (m.valueText f) ++ s)) := by
  have h := run_nextKey first f.name.toList (some ':' :: (Input.ofChars (m.valueText f) ++ s))
  simpa [memberText, printMember] using h

/-- **One member.** A member whose field did not come before is read into the record. -/
lemma run_readMember (m : Metadata) {p : Progress} {f : Field} (hf : f ∉ p.seen) (s : Input) :
    (readMember p).run
        (Input.ofChars ((if p.first then [] else [',']) ++ m.memberText f) ++ s) =
      .ok (.inl ⟨false, f :: p.seen, m.copyField p.record f⟩, s) := by
  rw [readMember, run_bind, run_nextKey_memberText]
  simp [ofName?_name, hf, run_bind, run_readColon, run_readField]

/-- A cut inside the value of a field is noticed. -/
lemma noticesCut_readField (m r : Metadata) (f : Field) :
    NoticesCut (readField r f) (m.valueText f) := by
  cases f with
  | pwd => exact .map _ (run_readText _) (noticesCut_readText _)
  | mode =>
    exact .map _ (run_readName (ofName?_mode_name m.mode)) noticesCut_readName
  | argv0 =>
    cases h : m.argv0 with
    | none =>
      have hnull : m.valueText .argv0 = "null".toList := by simp [valueText, h]
      rw [hnull]
      exact .map _ (a := none) (fun rest => rfl) noticesCut_readOptionalText_null
    | some a =>
      have hname : m.valueText .argv0 = printChars a.toList := by simp [valueText, h]
      rw [hname]
      exact .map _ (run_readOptionalText _) (noticesCut_readOptionalText _)
  | ptyStdin => exact .map _ (run_readFlag _) (noticesCut_readFlag _)
  | ptyStdout => exact .map _ (run_readFlag _) (noticesCut_readFlag _)
  | ptyStderr => exact .map _ (run_readFlag _) (noticesCut_readFlag _)
  | fallback => exact .map _ (run_readFlag _) (noticesCut_readFlag _)

/-- **One member.** A cut inside a member whose field did not come before is noticed.

**Proof sketch.** The key, the colon and the value are read one behind the other, and each of the
three readers notices a cut in its own part. -/
lemma noticesCut_readMember (m : Metadata) {p : Progress} {f : Field} (hf : f ∉ p.seen) :
    NoticesCut (readMember p) ((if p.first then [] else [',']) ++ m.memberText f) := by
  have hparts : (if p.first then [] else [',']) ++ m.memberText f =
      ((if p.first then [] else [',']) ++ printChars f.name.toList) ++
        ([':'] ++ (m.valueText f ++ [])) := by
    simp [memberText, printMember]
  rw [hparts]
  apply NoticesCut.bind (run_nextKey p.first f.name.toList) (noticesCut_nextKey _ _)
  simp only [ofName?_name, hf, if_false]
  apply NoticesCut.bind run_readColon noticesCut_readColon
  exact NoticesCut.bind (run_readField m p.record f) (noticesCut_readField m p.record f) (.nil _)

/-! ## The whole text -/

/-- **A cut among the members** is noticed.

**Proof sketch.** Induction on the members still to come.  The cut falls inside the next one, or
behind it, where that one has been read. -/
lemma loopFrom_readMember_of_cut (m : Metadata) (fs : List Field) (p : Progress) {q : List Char}
    (hnodup : fs.Nodup) (hfresh : ∀ f ∈ fs, f ∉ p.seen)
    (h : q <+: separated p.first (fs.map m.memberText) ++ ['\x7d'])
    (hne : q ≠ separated p.first (fs.map m.memberText) ++ ['\x7d']) :
    loopFrom readMember p (Input.ofChars q) = .error .truncated := by
  induction fs generalizing p q with
  | nil =>
    apply loopFrom_of_error
    rw [readMember, run_bind, noticesCut_nextKey_end p.first q h hne]
  | cons f fs ih =>
    obtain ⟨hf, hnodup'⟩ := List.nodup_cons.1 hnodup
    have hseen : f ∉ p.seen := hfresh f List.mem_cons_self
    have hfresh' : ∀ g ∈ fs, g ∉ f :: p.seen := by
      intro g hg hmem
      rcases List.mem_cons.1 hmem with rfl | hmem
      · exact hf hg
      · exact hfresh g (List.mem_cons_of_mem f hg) hmem
    rw [List.map_cons, separated_cons, List.append_assoc] at h hne
    rcases cut_append h hne with ⟨hmember, hne⟩ | ⟨q, rfl, hq, hne⟩
    · exact loopFrom_of_error (noticesCut_readMember m hseen _ hmember hne)
    · rw [ofChars_append]
      refine (loopFrom_of_inl (run_readMember m hseen (Input.ofChars q)) ?_).trans ?_
      · simp [memberText, printMember, printChars]
        omega
      · exact ih ⟨false, f :: p.seen, m.copyField p.record f⟩ hnodup' hfresh' hq hne

/-- A cut anywhere in the text is noticed. -/
lemma noticesCut_reader (m : Metadata) : NoticesCut reader m.encodeChars := by
  have htext : m.encodeChars =
      '\x7b' :: (separated true (m.fields.map m.memberText) ++ ['\x7d']) := by
    simp [encodeChars, intercalate_eq_separated, members_eq]
  rw [htext]
  refine .peek_skipOne (by decide) rfl rfl ?_
  intro q hq hne
  exact loopFrom_readMember_of_cut m m.fields {} m.nodup_fields (by simp) hq hne

/-- **A text that is cut short** is never read as a record, unless nothing is left of it. -/
lemma decode_of_cut {m : Metadata} {p : String} (h : p.toList <+: m.encode.toList)
    (hne : p ≠ m.encode) : decode p = if p = "" then .ok {} else .error .truncated := by
  by_cases hempty : p = ""
  · subst hempty
    rfl
  · have hchars : p.toList ≠ m.encodeChars := by
      intro hsame
      apply hne
      rw [encode, ← hsame, String.ofList_toList]
    rw [encode, String.toList_ofList] at h
    have hread := noticesCut_reader m p.toList h hchars
    rw [if_neg hempty, decode, if_neg (by simpa using hempty), readAll, hread]

/-- **Metadata that is cut short is refused.** Of the beginnings of the text that carries a record,
only the empty one and the whole text are read as records; all others end too early for the reader.
An agent to which such a part has come refuses to launch anything for that very reason, whatever
else it was asked for. -/
theorem cut_refused (m : Metadata) (p : String) (h : p.toList <+: m.encode.toList)
    (hne : p ≠ m.encode) :
    decode p = (if p = "" then .ok {} else .error .truncated) ∧
      (p ≠ "" → ∀ (r : LaunchRequest) isDirectory payload host,
        (r.setEnv carrierName p).launch isDirectory payload host =
          .error (.metadata .truncated)) := by
  refine ⟨decode_of_cut h hne, ?_⟩
  intro hsome r isDirectory payload host
  have hread : (r.setEnv carrierName p).metadata = .error .truncated := by
    simp [LaunchRequest.metadata, LaunchRequest.setEnv, decode_of_cut h hne, hsome]
  rw [LaunchRequest.launch, hread]

/-- A cut inside an escape, in a working directory with a control character in its name. -/
theorem cut_refused_escape :
    let m : Metadata := { pwd := "/a\x01", argv0 := some "-sh" }
    let p := "\x7b\"pwd\":\"/a\\u00"
    p.toList <+: m.encode.toList ∧ p ≠ m.encode ∧ decode p = .error .truncated ∧
      (({} : LaunchRequest).setEnv carrierName p).launch (fun _ => true) none {} =
        .error (.metadata .truncated) := by
  intro m p
  have hbeginning : p.toList <+: m.encode.toList := by
    rw [encode, String.toList_ofList]
    exact List.isPrefixOf_iff_prefix.1 (by decide +kernel)
  have hne : p ≠ m.encode := by decide
  obtain ⟨hread, hlaunch⟩ := cut_refused m p hbeginning hne
  exact ⟨hbeginning, hne, hread, hlaunch (by decide) _ _ _ _⟩

end CommandRelay.Metadata
