import CommandRelay.Proofs.Session.Members

/-!
# The metadata survives its carrier

The text that carries the metadata is read back as the record that was written.  What is written is
one of the many texts that mean a record, so reading it back is a case of reading any of them.

## Main definitions

* `Metadata.valueText`, `Metadata.memberText` — what is written for a value and for a member.
* `Metadata.fields` — the fields that are written, in order.

## Main results

* `Metadata.opensObject_members` — what is written is an object with these fields.
* `Metadata.decode_encode` — reading inverts writing.
* `Metadata.encode_printable` — the text holds no control character.
* `Metadata.encode_faithful` — both, and the text is not empty.
-/

namespace CommandRelay.Metadata

open Json Reader

/-! ## Fields -/

/-- What is written for the value of a field; a missing name would be `null`. -/
def valueText (m : Metadata) : Field → List Char
  | .pwd => printChars m.pwd.toList
  | .mode => printChars m.mode.name.toList
  | .argv0 => (m.argv0.map fun a => printChars a.toList).getD "null".toList
  | .ptyStdin => printBool m.terminals.stdin
  | .ptyStdout => printBool m.terminals.stdout
  | .ptyStderr => printBool m.terminals.stderr
  | .fallback => printBool m.fallback

/-- The fields that are written, in order. -/
def fields (m : Metadata) : List Field :=
  [.pwd, .mode] ++ (if m.argv0.isSome then [.argv0] else []) ++
    [.ptyStdin, .ptyStdout, .ptyStderr, .fallback]

/-- The member of a field as it is written. -/
def memberText (m : Metadata) (f : Field) : List Char := printMember f (m.valueText f)

/-- The writer writes the members of its fields. -/
lemma members_eq (m : Metadata) : m.members = m.fields.map m.memberText := by
  obtain ⟨pwd, mode, argv0, terminals, fallback⟩ := m
  cases argv0 <;> rfl

/-- No field is written twice. -/
lemma nodup_fields (m : Metadata) : m.fields.Nodup := by
  unfold fields
  cases m.argv0.isSome <;> decide

/-- The fields that are written make up the whole record: only a missing name is left out, and
that is the default. -/
lemma overlay_fields (m : Metadata) : m.overlay {} m.fields = m := by
  obtain ⟨pwd, mode, argv0, ⟨i, o, e⟩, fallback⟩ := m
  cases argv0 <;> rfl

/-- What is written for the value of a field may be written for it. -/
lemma isValueText_valueText (m : Metadata) (f : Field) : m.IsValueText f (m.valueText f) := by
  cases f with
  | pwd => exact stringText_printChars _
  | mode => exact .inl (stringText_printChars _)
  | argv0 =>
    cases h : m.argv0 with
    | none => exact .inl ⟨h, by simp [valueText, h]⟩
    | some a => exact .inr ⟨a, h, by simpa [valueText, h] using stringText_printChars a.toList⟩
  | _ => rfl

/-- What is written for a member may be written for it. -/
lemma memberText_memberText (m : Metadata) (f : Field) : m.MemberText (some f) (m.memberText f) :=
  ⟨_, _, ⟨[], _, [], blank_nil, stringText_printChars f.name.toList, blank_nil, rfl⟩,
    ⟨[], _, [], blank_nil, m.isValueText_valueText f, blank_nil, rfl⟩,
    by simp [memberText, printMember]⟩

/-! ## Reading the text -/

/-- The text is an object with the members of the fields that are written. -/
lemma opensObject_members (m : Metadata) :
    m.OpensObject (m.fields.map some) ('\x7b' :: [','].intercalate m.members) := by
  refine ⟨[], [], m.members, blank_nil, blank_nil, ?_, rfl⟩
  rw [members_eq, List.forall₂_map_left_iff, List.forall₂_map_right_iff, List.forall₂_same]
  exact fun f _ => m.memberText_memberText f

/-- **Reading inverts writing.** -/
theorem decode_encode (m : Metadata) : decode m.encode = .ok m := by
  have hfields : (m.fields.map some).reduceOption = m.fields := by
    simp [List.reduceOption]
  have hnodup : (m.fields.map some).reduceOption.Nodup := by
    rw [hfields]
    exact m.nodup_fields
  have hread := decode_of_opensObject m.opensObject_members hnodup blank_nil
  rw [hfields, overlay_fields] at hread
  exact hread

/-! ## Characters of the text -/

/-- What is written for a value holds no control character. -/
lemma valueText_printable {m : Metadata} {f : Field} {c : Char} (h : c ∈ m.valueText f) :
    0x20 ≤ c.toNat := by
  have hflag : ∀ b, c ∈ printBool b → 0x20 ≤ c.toNat := by
    intro b hc
    have hall : ∀ d ∈ printBool b, 0x20 ≤ d.toNat := by
      cases b <;> simp [printBool]
    exact hall c hc
  cases f with
  | pwd => exact printChars_printable h
  | mode => exact printChars_printable h
  | argv0 =>
    rw [valueText] at h
    cases ha : m.argv0 with
    | none =>
      have hall : ∀ d ∈ "null".toList, 0x20 ≤ d.toNat := by simp
      exact hall c (by simpa [ha] using h)
    | some a => exact printChars_printable (by simpa [ha] using h)
  | ptyStdin => exact hflag _ h
  | ptyStdout => exact hflag _ h
  | ptyStderr => exact hflag _ h
  | fallback => exact hflag _ h

/-- The text holds no control character. -/
lemma encode_printable {m : Metadata} {c : Char} (h : c ∈ m.encode.toList) : 0x20 ≤ c.toNat := by
  have hc : c = '\x7b' ∨ c ∈ separated true (m.fields.map m.memberText) ∨ c = '\x7d' := by
    simpa [encode, encodeChars, intercalate_eq_separated, members_eq] using h
  rcases hc with rfl | hc | rfl
  · decide
  · rcases mem_separated hc with rfl | ⟨t, ht, hct⟩
    · decide
    · obtain ⟨f, -, rfl⟩ := List.mem_map.1 ht
      rw [memberText, printMember, List.mem_append, List.mem_cons] at hct
      rcases hct with hkey | rfl | hvalue
      · exact printChars_printable hkey
      · decide
      · exact valueText_printable hvalue
  · decide

/-- **The carrier is faithful.** The text that carries a record is read back as that record, it is
not empty, and it holds no character below U+0020.  So it fits into one line of an environment, and
it is never taken for the empty text of a client that sent no metadata. -/
theorem encode_faithful (m : Metadata) :
    decode m.encode = .ok m ∧ m.encode ≠ "" ∧ ∀ c ∈ m.encode.toList, 0x20 ≤ c.toNat := by
  refine ⟨decode_encode m, ?_, fun c hc => encode_printable hc⟩
  simp [encode, encodeChars]

end CommandRelay.Metadata
