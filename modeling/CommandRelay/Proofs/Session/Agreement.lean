import CommandRelay.Proofs.Agent.Run
import CommandRelay.Proofs.Client.Opening

/-!
# Client and agent agree

A client plans a session and asks for it message by message; the agent collects the messages and
makes a launch of them.  The launch is the one that was planned.

## Main definitions

* `Plan.argumentsOf` — the argument list that a plan is about.
* `Plan.preparations` — what a client asks for before it asks for the command.

## Main results

* `Plan.metadata_collected` — the agent finds the metadata of the plan.
* `Plan.command_build` — it finds the planned command.
* `Plan.launch_agrees` — it launches what was planned.
-/

namespace CommandRelay

/-- Streams of which none is marked are the default ones. -/
lemma Streams.eq_default_of_any {s : Streams} (h : s.any = false) : s = {} := by
  obtain ⟨i, o, e⟩ := s
  cases i <;> cases o <;> cases e <;> first | rfl | cases h

namespace Plan

open Terminal (Pty)
open Client (sent openings)
open Client.Session (afterOpening afterOpening_spec)
open Agent (Surroundings Handler Effect)

/-- The argument list that a plan is about: with paths as they are called there, if asked for. -/
def argumentsOf (s : Settings) (o : RunOptions) (vantage : Vantage) (argv : List String) :
    List String :=
  if o.translatePaths then
    (s.mapping (some vantage.home) (some vantage.cwd)
      (some (routeOf s o).container)).translateArguments .toForeign argv
  else argv

/-- What a client asks for before it asks for the command: a terminal if it has one itself, the
variables in the order of their names, and the metadata at the end. -/
def preparations (p : Plan) (terminals : Streams) (t : Pty) : List ClientMessage :=
  (if terminals.any then [p.terminalRequest t] else []) ++
    (p.env.entries.map fun e => ClientMessage.env e.1 e.2) ++ [p.metadataRequest]

/-! ## The messages -/

/-- What the opening of a session sends. -/
lemma filterMap_openings (p : Plan) (terminals : Streams) (t : Pty) :
    (openings p terminals).filterMap (·.message? p t) =
      p.preparations terminals t ++ [p.startRequest] := by
  cases hany : terminals.any <;> cases hraw : terminals.wantsRawMode <;>
    simp [openings, Client.terminalOpenings, hany, hraw, preparations, Client.Opening.message?]

/-- What a client asks for beforehand is a preparation. -/
lemma isPreparation_preparations (p : Plan) (terminals : Streams) (t : Pty) :
    ∀ m ∈ p.preparations terminals t, m.isPreparation = true := by
  intro m hm
  simp only [preparations, List.mem_append, List.mem_map, List.mem_singleton] at hm
  rcases hm with (hm | ⟨e, -, rfl⟩) | rfl
  · split_ifs at hm
    · rw [List.mem_singleton.1 hm]
      rfl
    · cases hm
  · rfl
  · rfl

/-- The request to start the command is a start request with the payload of the plan. -/
lemma receive_startRequest (p : Plan) (around : Surroundings) (c : ChannelId) (h : Handler) :
    h.receive around c p.startRequest = h.start around c (p.payload.map Text.toBytes) := by
  rw [startRequest]
  cases p.payload <;> rfl

/-! ## The request -/

/-- Variables leave the terminal as it is. -/
lemma terminal_foldl_collect (asked : List (String × String)) (r : LaunchRequest) :
    ((asked.map fun e => ClientMessage.env e.1 e.2).foldl LaunchRequest.collect r).terminal =
      r.terminal := by
  induction asked generalizing r with
  | nil => rfl
  | cons e asked ih =>
    rw [List.map_cons, List.foldl_cons, ih]
    simp only [LaunchRequest.collect, LaunchRequest.setEnv]
    split_ifs <;> rfl

/-- The metadata comes last and has the last word, whatever variables were asked for before. -/
lemma carried_collected (p : Plan) (terminals : Streams) (t : Pty) :
    ((p.preparations terminals t).foldl LaunchRequest.collect {}).carried =
      some p.metadata.encode := by
  simp [preparations, metadataRequest, LaunchRequest.collect, LaunchRequest.setEnv]

/-- The agent knows of a terminal just if the client has one. -/
lemma terminal_collected (p : Plan) (terminals : Streams) (t : Pty) :
    ((p.preparations terminals t).foldl LaunchRequest.collect {}).terminal.isSome =
      terminals.any := by
  cases hany : terminals.any <;>
    simp [preparations, hany, metadataRequest, LaunchRequest.collect, LaunchRequest.setEnv,
      LaunchRequest.setTerminal, terminal_foldl_collect, terminalRequest]

/-- **The metadata** that the agent finds is that of the plan. -/
lemma metadata_collected (p : Plan) (terminals : Streams) (t : Pty) :
    ((p.preparations terminals t).foldl LaunchRequest.collect {}).metadata = .ok p.metadata := by
  rw [LaunchRequest.metadata, carried_collected]
  exact Metadata.decode_encode p.metadata

/-! ## The command -/

/-- The program, the name it is started under and its arguments, for an argument list that is
started through the login shell or not. -/
def commandOf (host : HostProfile) (shell : Bool) : List String → String × String × List String
  | [] => (host.shell, host.loginName, [])
  | program :: args =>
    if shell then (host.shell, host.loginName, ["-c", ShellWords.join (program :: args)])
    else (program, program, args)

/-- **The command** that the agent finds is the planned one.

**Proof sketch.** An empty argument list has no payload.  Any other has one that is read as the
mode in the metadata says, and the mode was chosen with the payload. -/
lemma command_build (s : Settings) (argv : List String) (o : RunOptions) (source : Environment)
    (terminals : Streams) (vantage : Vantage) (host : HostProfile) :
    LaunchRequest.command (build s argv o source terminals vantage).metadata.mode
        ((build s argv o source terminals vantage).payload.map Text.toBytes) host =
      .ok (commandOf host o.shell (argumentsOf s o vantage argv)) := by
  cases hargv : argumentsOf s o vantage argv with
  | nil =>
    unfold argumentsOf at hargv
    simp [build, hargv, LaunchRequest.command, commandOf]
  | cons program args =>
    unfold argumentsOf at hargv
    cases hshell : o.shell with
    | true =>
      simp [build, hargv, hshell, LaunchRequest.command, Payload.commandText_toBytes, commandOf,
        Except.map]
    | false =>
      simp [build, hargv, hshell, LaunchRequest.command, Payload.arguments_ofArguments, commandOf,
        Except.map]

/-! ## The launch -/

/-- **Client and agent agree.** A client that has opened a session has asked for a terminal if it
has one, for the variables of its plan, for the metadata and for the command, in this order.  The
agent finds the metadata of the plan in it, also if a variable of the plan has the name of the
carrier, and it launches the planned command, with the terminal where the client has one, and
without the carrier among the variables.

**Proof sketch.** The opening of a session is known to send these messages.  The agent collects all
but the last one, and the last one makes a launch of what was collected. -/
theorem launch_agrees (s : Settings) (argv : List String) (o : RunOptions) (source : Environment)
    (terminals : Streams) (vantage : Vantage) (t : Pty) (around : Surroundings) (h : Handler)
    (c : ChannelId) :
    let plan := build s argv o source terminals vantage
    let messages := sent (afterOpening plan terminals t).2.2
    let request := (plan.preparations terminals t).foldl LaunchRequest.collect {}
    messages = plan.preparations terminals t ++ [plan.startRequest] ∧
    request.metadata = .ok plan.metadata ∧
    ∃ spec : Launch,
      request.launch around.isDirectory (plan.payload.map Text.toBytes) around.host = .ok spec ∧
      (∀ e ∈ spec.env, e.1 ≠ Metadata.carrierName) ∧
      spec.streams = terminals ∧
      spec.terminal.isSome = terminals.any ∧
      (spec.program, spec.argv0, spec.args) =
        commandOf around.host o.shell (argumentsOf s o vantage argv) ∧
      h.effects ((around, .opened c) :: messages.map fun m => (around, .sent c m)) =
        .reply c true :: match around.spawn spec with
          | .ok process => [.launch c spec (some process)]
          | .error reason => [.launch c spec none, .refuse c reason] := by
  intro plan messages request
  have hmessages : messages = plan.preparations terminals t ++ [plan.startRequest] :=
    (afterOpening_spec plan terminals t).2.2.trans (filterMap_openings plan terminals t)
  have hmetadata : request.metadata = .ok plan.metadata := metadata_collected plan terminals t
  have hterminal : request.terminal.isSome = terminals.any := terminal_collected plan terminals t
  have hstreams : request.streams plan.metadata = terminals := by
    rw [LaunchRequest.streams, hterminal]
    cases hany : terminals.any with
    | true => rfl
    | false => exact (Streams.eq_default_of_any hany).symm
  obtain ⟨program, name, args, hcommand⟩ : ∃ program name args,
      commandOf around.host o.shell (argumentsOf s o vantage argv) = (program, name, args) :=
    ⟨_, _, _, rfl⟩
  have hlaunch := LaunchRequest.launch_of hmetadata
    ((command_build s argv o source terminals vantage around.host).trans
      (congrArg Except.ok hcommand)) around.isDirectory
  rw [hstreams] at hlaunch
  refine ⟨hmessages, hmetadata, _, hlaunch, ?_, rfl, ?_, hcommand.symm, ?_⟩
  · exact LaunchRequest.carrierName_notMem
      (LaunchRequest.carrierName_foldl_collect (by simp) _) _ _
  · cases hany : terminals.any with
    | true => exact hterminal.trans hany
    | false => rfl
  · rw [hmessages]
    exact Handler.effects_session around h c (isPreparation_preparations plan terminals t)
      (receive_startRequest plan around c) hlaunch

end Plan

end CommandRelay
