import CommandRelay.Agent.Message
import CommandRelay.Proofs.Session.Carrier

/-!
# What a channel is asked for

What is asked for on a channel is collected message by message.  The variable that carries the
metadata never becomes a variable of the program, whatever else is asked for, and a payload is read
as what it was made from.

## Main definitions

* `LaunchRequest.collect` — what a message adds to what was asked for.

## Main results

* `Payload.arguments_ofArguments`, `Payload.commandText_toBytes` — payloads are read back.
* `LaunchRequest.carrierName_notMem` — the carrier of the metadata is no variable of the program.
* `LaunchRequest.launch_of` — the launch, from the metadata and the command.
-/

namespace CommandRelay

/-! ## Payloads -/

/-- The bytes of a text are read as that text. -/
lemma Text.ofBytes?_toBytes (s : String) : Text.ofBytes? (Text.toBytes s) = some s := by
  have hbytes : (⟨(Text.toBytes s).toArray⟩ : ByteArray) = s.toByteArray := by
    simp [Text.toBytes, String.toUTF8]
  rw [Text.ofBytes?, hbytes, String.fromUTF8?, dif_pos s.isValidUTF8]
  rfl

namespace Payload

/-- An argument list is read back from its payload. -/
lemma arguments_ofArguments (program : String) (args : List String) :
    arguments (Text.toBytes (ofArguments (program :: args))) = .ok (program, args) := by
  have hread : Json.readAll Json.readTexts
      (places (Text.toBytes (ofArguments (program :: args)))) =
        .ok (program.toList :: args.map String.toList) := by
    refine Json.readAll_of_run ?_
    rw [places, Text.ofBytes?_toBytes]
    simpa [ofArguments, Json.printStrings] using
      Json.run_readTexts (program.toList :: args.map String.toList) []
  rw [arguments, hread]
  simp

/-- A command text is read back from its payload. -/
lemma commandText_toBytes (text : String) : commandText (Text.toBytes text) = .ok text := by
  rw [commandText, Text.ofBytes?_toBytes]

end Payload

/-! ## Variables of the program -/

/-- A variable that was set last is the only one that is new. -/
lemma mem_setVariable {env : List (String × String)} {name value : String} {e : String × String}
    (h : e ∈ setVariable env name value) : e = (name, value) ∨ e ∈ env := by
  induction env with
  | nil => simpa [setVariable] using h
  | cons first rest ih =>
    rw [setVariable] at h
    split_ifs at h with hname
    · exact (List.mem_cons.1 h).imp id (List.mem_cons_of_mem _)
    · rcases List.mem_cons.1 h with h | h
      · exact .inr (h ▸ List.mem_cons_self)
      · exact (ih h).imp id (List.mem_cons_of_mem _)

/-- Variables are set one after another without the carrier of the metadata. -/
lemma carrierName_foldl_setVariable {asked env : List (String × String)}
    (hasked : ∀ e ∈ asked, e.1 ≠ Metadata.carrierName)
    (henv : ∀ e ∈ env, e.1 ≠ Metadata.carrierName) :
    ∀ e ∈ asked.foldl (fun env e => setVariable env e.1 e.2) env,
      e.1 ≠ Metadata.carrierName := by
  induction asked generalizing env with
  | nil => exact henv
  | cons first asked ih =>
    refine ih (fun e he => hasked e (List.mem_cons_of_mem _ he)) fun e he => ?_
    rcases mem_setVariable he with rfl | he
    · exact hasked first List.mem_cons_self
    · exact henv e he

namespace LaunchRequest

/-- What a message adds to what was asked for on its channel. -/
def collect (r : LaunchRequest) : ClientMessage → LaunchRequest
  | .env name value => r.setEnv name value
  | .terminal term cols rows width height modes =>
    r.setTerminal ⟨term, .ofWire cols rows width height, Terminal.Modes.ofPairs modes⟩
  | _ => r

/-- No message puts the carrier of the metadata among the variables. -/
lemma carrierName_collect {r : LaunchRequest} (h : ∀ e ∈ r.env, e.1 ≠ Metadata.carrierName)
    (m : ClientMessage) : ∀ e ∈ (r.collect m).env, e.1 ≠ Metadata.carrierName := by
  cases m with
  | env name value =>
    intro e he
    by_cases hname : name = Metadata.carrierName
    · exact h e (by simpa [collect, setEnv, hname] using he)
    · have he : e ∈ r.env ∨ e = (name, value) := by simpa [collect, setEnv, hname] using he
      rcases he with he | rfl
      · exact h e he
      · exact hname
  | _ => exact h

/-- No messages at all put the carrier of the metadata among the variables. -/
lemma carrierName_foldl_collect {r : LaunchRequest} (h : ∀ e ∈ r.env, e.1 ≠ Metadata.carrierName)
    (ms : List ClientMessage) :
    ∀ e ∈ (ms.foldl collect r).env, e.1 ≠ Metadata.carrierName := by
  induction ms generalizing r with
  | nil => exact h
  | cons m ms ih => exact ih (carrierName_collect h m)

/-- The variables of the host do not carry the metadata. -/
lemma carrierName_baseEnvironment (host : HostProfile) :
    ∀ e ∈ baseEnvironment host, e.1 ≠ Metadata.carrierName := by
  intro e he
  cases hhome : host.home <;> cases huser : host.user <;>
    simp only [baseEnvironment, hhome, huser, Option.map_none, Option.map_some, Option.toList_none,
      Option.toList_some, Option.getD_none, Option.getD_some, List.append_nil, List.cons_append,
      List.nil_append, List.mem_cons, List.not_mem_nil, or_false] at he <;>
    rcases he with rfl | rfl | rfl | rfl | rfl <;> simp [Metadata.carrierName]

/-- **The carrier stays out.** The variable that carries the metadata is no variable of the program,
when it is none of those asked for.

**Proof sketch.** The variables are those of the host, those asked for, and at most two more, which
are set one after another. -/
lemma carrierName_notMem {r : LaunchRequest} (h : ∀ e ∈ r.env, e.1 ≠ Metadata.carrierName)
    (host : HostProfile) (cwd : String) :
    ∀ e ∈ r.environment host cwd, e.1 ≠ Metadata.carrierName := by
  have hbase := carrierName_foldl_setVariable h (carrierName_baseEnvironment host)
  have hpwd : ∀ e ∈ [("PWD", cwd)], e.1 ≠ Metadata.carrierName := by simp [Metadata.carrierName]
  have hcwd := carrierName_foldl_setVariable hpwd hbase
  cases hterminal : r.terminal with
  | none => simpa [environment, hterminal] using hcwd
  | some t =>
    have hterm : ∀ e ∈ [("TERM", t.term)], e.1 ≠ Metadata.carrierName := by
      simp [Metadata.carrierName]
    simpa [environment, hterminal] using carrierName_foldl_setVariable hterm hcwd

/-! ## The launch -/

/-- **The launch** that a start request asks for, where its metadata and its command can be read. -/
lemma launch_of {r : LaunchRequest} {m : Metadata} {payload : Option (List UInt8)}
    {host : HostProfile} {program name : String} {args : List String}
    (hm : r.metadata = .ok m) (hc : command m.mode payload host = .ok (program, name, args))
    (isDirectory : String → Bool) :
    r.launch isDirectory payload host = .ok {
      program, args
      argv0 := m.argv0.getD name
      cwd := directory isDirectory m host
      env := r.environment host (directory isDirectory m host)
      streams := r.streams m
      terminal := if (r.streams m).any then r.terminal else none } := by
  rw [launch, hm]
  simp only [hc]

end LaunchRequest

end CommandRelay
