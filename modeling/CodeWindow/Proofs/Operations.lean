import CodeWindow.Proofs.Reachable

/-! Runs of a session: requests of every kind, one after the other, each of a process of its own. A
request shows the instructions that it gives, the messages that it records, and how often it asked
the host for resources and for an emulator. Nothing that a run shows depends on how often the host
was asked before. -/

namespace CodeWindow

/-- What a session is asked for. -/
inductive Operation where
  | near (process : Process) (request : WindowRequest)
  | window (process : Process) (count : Nat) (emulate history : Bool)
  | one (process : Process) (address : UInt64)
  | cached (address : UInt64)
  | reset

/-- What a request shows. -/
structure Answer where
  insns : List Instruction
  /-- The messages that were recorded, in order. -/
  recorded : List String
  /-- How often the host was asked for resources. -/
  probes : Nat
  /-- How often the host was asked for an emulator. -/
  creations : Nat

namespace Session

variable {σ : Type} [Emulator σ]

/-- The instructions that an operation gives. -/
def perform (session : Session) (host : Host σ) : Operation → List Instruction × Session
  | .near process request => session.near host process request
  | .window process count emulate history => session.window host process count emulate history
  | .one process address =>
    let (insn, after) := session.one host.disassembler process address
    (insn.toList, after)
  | .cached address => ((session.cached address).toList, session)
  | .reset => ([], session.reset)

/-- What a request shows, and the session behind it. -/
def answer (session : Session) (host : Host σ) (operation : Operation) : Answer × Session :=
  let (insns, after) := session.perform host operation
  ({ insns
     recorded := after.warnings.drop session.warnings.length
     probes := after.probes - session.probes
     creations := after.creations - session.creations }, after)

/-- What the requests of a run show. -/
def run (host : Host σ) : List Operation → Session → List Answer × Session
  | [], session => ([], session)
  | operation :: later, session =>
    let (answer, session) := session.answer host operation
    let (answers, session) := run host later session
    (answer :: answers, session)

/-- A window around the program counter is one at an address, or shows nothing. -/
theorem answer_window (session : Session) (host : Host σ) (process : Process) (count : Nat)
    (emulate history : Bool) :
    (∃ request, session.answer host (.window process count emulate history) =
      session.answer host (.near process request)) ∨
    session.answer host (.window process count emulate history) =
      ({ insns := [], recorded := [], probes := 0, creations := 0 }, session) := by
  simp only [answer, perform, window]
  cases process.pc with
  | none =>
    right
    simp only [List.drop_length, Nat.sub_self]
  | some address => exact .inl ⟨{ address, count, emulate, history }, rfl⟩

/-- What each request keeps holds along a run, and so does what each request shows. -/
theorem run_keeps {host : Host σ} {holds : Session → Prop} {shows : Answer → Prop}
    (hstep : ∀ session operation, holds session →
      shows (session.answer host operation).1 ∧ holds (session.answer host operation).2)
    (operations : List Operation) {session : Session} (h : holds session) :
    (∀ answer ∈ (run host operations session).1, shows answer) ∧
      holds (run host operations session).2 := by
  induction operations generalizing session with
  | nil => exact ⟨List.forall_mem_nil _, h⟩
  | cons operation later ih =>
    obtain ⟨hshows, hafter⟩ := hstep session operation h
    obtain ⟨hlater, hlast⟩ := ih hafter
    exact ⟨List.forall_mem_cons.mpr ⟨hshows, hlater⟩, hlast⟩

/-! ### Earlier questions -/

/-- The session had it asked so many more questions before. -/
def counting (session : Session) (probes creations : Nat) : Session :=
  { session with
    probes := probes + session.probes, creations := creations + session.creations }

section

variable (session : Session) (probes creations : Nat) (disassembler : Disassembler)
  (process : Process)

theorem compute_counting (address : UInt64) (emulation : Emulation σ) (keep : Bool) :
    (session.counting probes creations).compute disassembler process address emulation keep =
      let (insn, remaining, after) :=
        session.compute disassembler process address emulation keep
      (insn, remaining, after.counting probes creations) := by
  have hdecode : (session.counting probes creations).decode disassembler process address =
      ((session.decode disassembler process address).1,
        (session.decode disassembler process address).2.counting probes creations) := rfl
  unfold compute
  rw [hdecode]
  rcases session.decode disassembler process address with ⟨_ | decoded, after⟩
  · rfl
  · cases keep <;> rfl

theorem visit_counting (address : UInt64) (emulation : Emulation σ) :
    (session.counting probes creations).visit disassembler process address emulation =
      let (insn, remaining, after) := session.visit disassembler process address emulation
      (insn, remaining, after.counting probes creations) := by
  unfold visit
  split
  · rw [compute_counting]
  · rfl

theorem one_counting (address : UInt64) :
    (session.counting probes creations).one disassembler process address =
      let (insn, after) := session.one disassembler process address
      (insn, after.counting probes creations) := by
  unfold one
  split
  · rw [compute_counting]
  · rfl

theorem recollect_counting (address : UInt64) :
    (session.counting probes creations).recollect disassembler process address =
      let (insn, after) := session.recollect disassembler process address
      (insn, after.counting probes creations) := by
  cases hkept : session.computed.find? address with
  | none =>
    rw [recollect_of_not_kept hkept, recollect_of_not_kept (show (session.counting probes
      creations).computed.find? address = none from hkept), one_counting]
  | some insn =>
    have hkept' : (session.counting probes creations).computed.find? address = some insn := hkept
    simp only [recollect, hkept, hkept']
    split <;> rfl

theorem history_counting (count : Nat) (address : UInt64) :
    history disassembler process count address (session.counting probes creations) =
      let (earlier, after) := history disassembler process count address session
      (earlier, after.counting probes creations) := by
  induction count generalizing session address with
  | zero => rfl
  | succ count ih =>
    have hsame : (session.counting probes creations).predecessors = session.predecessors := rfl
    simp only [history, hsame]
    cases session.predecessors.find? address with
    | none => rfl
    | some previous =>
      simp only [recollect_counting]
      rcases session.recollect disassembler process previous with ⟨_ | insn, after⟩
      · rfl
      · simp only [ih]

theorem walk_counting (count : Nat) (last : Instruction) (emulation : Emulation σ) :
    walk disassembler process count last emulation (session.counting probes creations) =
      let (later, after) := walk disassembler process count last emulation session
      (later, after.counting probes creations) := by
  induction count generalizing session last emulation with
  | zero => rfl
  | succ count ih =>
    simp only [walk, visit_counting]
    rcases session.visit disassembler process ((emulation.past last).pc?.getD last.next)
      (emulation.past last) with ⟨_ | insn, remaining, after⟩
    · rfl
    · simp only [ih]

omit [Emulator σ] in
theorem startEmulation_counting (host : Host σ) (request : WindowRequest) :
    (session.counting probes creations).startEmulation host process request =
      let (emulation, started) := session.startEmulation host process request
      (emulation, started.counting probes creations) := by
  have hwants : (session.counting probes creations).wantsEmulator host process request =
      session.wantsEmulator host process request := rfl
  have hasked : (session.counting probes creations).canEmulate host.probe =
      ((session.canEmulate host.probe).1,
        (session.canEmulate host.probe).2.counting probes creations) := by
    have hfirst : (session.counting probes creations).firstEmulation =
      session.firstEmulation := rfl
    unfold canEmulate
    rw [hfirst]
    split
    · cases host.probe <;> rfl
    · rfl
  unfold startEmulation
  rw [hwants, hasked]
  split
  · obtain ⟨_ | _, asked⟩ := session.canEmulate host.probe <;> cases host.factory <;> rfl
  · rfl

theorem near_counting (host : Host σ) (request : WindowRequest) :
    (session.counting probes creations).near host process request =
      let (window, after) := session.near host process request
      (window, after.counting probes creations) := by
  simp only [near, startEmulation_counting]
  rcases session.startEmulation host process request with ⟨emulation, started⟩
  simp only [visit_counting]
  rcases started.visit host.disassembler process request.address emulation with
    ⟨_ | current, remaining, seen⟩
  · rfl
  · cases request.history
    · simp only [Bool.false_eq_true, if_false, walk_counting]
    · simp only [if_true, history_counting, walk_counting]

theorem perform_counting (host : Host σ) (operation : Operation) :
    (session.counting probes creations).perform host operation =
      let (insns, after) := session.perform host operation
      (insns, after.counting probes creations) := by
  cases operation with
  | near process request => exact session.near_counting probes creations process host request
  | window process count emulate history =>
    simp only [perform, window]
    cases process.pc with
    | none => rfl
    | some address => exact session.near_counting probes creations process host _
  | one process address => simp only [perform, one_counting]
  | cached address => rfl
  | reset => rfl

/-- What a request shows does not depend on how often the host was asked before. -/
theorem answer_counting (host : Host σ) (operation : Operation) :
    (session.counting probes creations).answer host operation =
      let (answer, after) := session.answer host operation
      (answer, after.counting probes creations) := by
  unfold answer
  rw [perform_counting]
  simp only [counting, Nat.add_sub_add_left]

theorem run_counting (host : Host σ) (operations : List Operation) :
    run host operations (session.counting probes creations) =
      let (answers, after) := run host operations session
      (answers, after.counting probes creations) := by
  induction operations generalizing session with
  | nil => rfl
  | cons operation later ih => simp only [run, answer_counting, ih]

end

/-! ### What a request leaves to the next one -/

/-- What looking at instructions does not change. -/
structure SameBooks (session after : Session) : Prop where
  config : after.config = session.config
  firstEmulation : after.firstEmulation = session.firstEmulation
  warnings : after.warnings = session.warnings
  probes : after.probes = session.probes
  creations : after.creations = session.creations

theorem looks_sameBooks (session : Session) : Looks (SameBooks session) where
  opened _ _ h := ⟨h.config, h.firstEmulation, h.warnings, h.probes, h.creations⟩
  visited _ _ _ _ _ h := ⟨h.config, h.firstEmulation, h.warnings, h.probes, h.creations⟩
  remembered _ _ h := ⟨h.config, h.firstEmulation, h.warnings, h.probes, h.creations⟩

theorem SameBooks.refl (session : Session) : SameBooks session session := ⟨rfl, rfl, rfl, rfl, rfl⟩

theorem near_sameBooks (session : Session) (host : Host σ) (process : Process)
    (request : WindowRequest) :
    SameBooks (session.startEmulation host process request).2
      (session.near host process request).2 :=
  (looks_sameBooks _).near host process request (.refl _)

theorem one_sameBooks (session : Session) (disassembler : Disassembler) (process : Process)
    (address : UInt64) : SameBooks session (session.one disassembler process address).2 :=
  (looks_sameBooks _).one (.refl _) disassembler process address

/-- The session after the host refused resources. -/
def refused (session : Session) (cause : ResourceError) : Session :=
  { session with
    firstEmulation := false
    probes := session.probes + 1
    warnings := session.warnings ++ [resourceWarning cause]
    config := { session.config with emulate := .off } }

/-- The session after the host was asked for an emulator; the first time it was asked for resources
before. -/
def granted (session : Session) : Session :=
  { session with
    firstEmulation := false
    probes := session.probes + if session.firstEmulation then 1 else 0
    creations := session.creations + 1 }

omit [Emulator σ] in
theorem startEmulation_of_unwanted {session : Session} {host : Host σ} {process : Process}
    {request : WindowRequest}
    (hwants : session.wantsEmulator host process request = false) :
    session.startEmulation host process request = (.off, session) := by
  simp only [startEmulation, hwants, Bool.false_eq_true, if_false]

omit [Emulator σ] in
theorem startEmulation_of_refused {session : Session} {host : Host σ} {process : Process}
    {request : WindowRequest} {cause : ResourceError}
    (hwants : session.wantsEmulator host process request = true)
    (hfirst : session.firstEmulation = true) (hprobe : host.probe = .error cause) :
    session.startEmulation host process request = (.off, session.refused cause) := by
  simp only [startEmulation, hwants, if_true, canEmulate, hfirst, hprobe]
  rfl

/-- How a window comes to its emulation. -/
inductive Starts (session : Session) (host : Host σ) (process : Process)
    (request : WindowRequest) : Emulation σ × Session → Prop
  | unwanted (hwants : session.wantsEmulator host process request = false) :
      Starts session host process request (.off, session)
  | refused {cause : ResourceError} (hwants : session.wantsEmulator host process request = true)
      (hfirst : session.firstEmulation = true) (hprobe : host.probe = .error cause) :
      Starts session host process request (.off, session.refused cause)
  | granted {emulation : Emulation σ}
      (hwants : session.wantsEmulator host process request = true)
      (hprobe : session.firstEmulation = true → host.probe = .ok ()) :
      Starts session host process request (emulation, session.granted)

omit [Emulator σ] in
theorem startEmulation_starts (session : Session) (host : Host σ) (process : Process)
    (request : WindowRequest) :
    Starts session host process request (session.startEmulation host process request) := by
  cases hwants : session.wantsEmulator host process request with
  | false =>
    rw [startEmulation_of_unwanted hwants]
    exact .unwanted hwants
  | true =>
    -- An emulator is wanted only of a host that makes some.
    obtain ⟨factory, hfactory⟩ : ∃ factory, host.factory = some factory := by
      cases hfactory : host.factory with
      | none => simp [wantsEmulator, hfactory] at hwants
      | some factory => exact ⟨factory, rfl⟩
    have hgranted : ∀ asked : Session, session.canEmulate host.probe = (true, asked) →
        { asked with creations := asked.creations + 1 } = session.granted →
        (session.firstEmulation = true → host.probe = .ok ()) →
        Starts session host process request (session.startEmulation host process request) := by
      intro asked hmay hasked hprobe
      rw [startEmulation, if_pos hwants, hmay, hfactory]
      simp only [hasked]
      exact .granted hwants hprobe
    cases hfirst : session.firstEmulation with
    | false =>
      refine hgranted session ?_ ?_ (by simp [hfirst])
      · simp only [canEmulate, hfirst, Bool.false_eq_true, if_false]
      · simp only [Session.granted, hfirst, Bool.false_eq_true, if_false, Nat.add_zero]
    | true =>
      cases hprobe : host.probe with
      | error cause =>
        rw [startEmulation_of_refused hwants hfirst hprobe]
        exact .refused hwants hfirst hprobe
      | ok answer =>
        refine hgranted { session with
          firstEmulation := false, probes := session.probes + 1 } ?_ ?_ fun _ => hprobe
        · simp only [canEmulate, hfirst, hprobe, if_true]
        · simp only [Session.granted, hfirst, if_true]

/-- A window leaves the books as it started, however it came to its emulation. -/
theorem near_starts (session : Session) (host : Host σ) (process : Process)
    (request : WindowRequest) :
    ∃ emulation started, Starts session host process request (emulation, started) ∧
      SameBooks started (session.near host process request).2 :=
  ⟨_, _, session.startEmulation_starts host process request,
    session.near_sameBooks host process request⟩

/-- A request changes nothing of the configuration but whether to emulate. -/
theorem answer_config (session : Session) (host : Host σ) (operation : Operation) :
    ∃ mode, (session.answer host operation).2.config =
      { session.config with emulate := mode } := by
  have hnear : ∀ process request, ∃ mode,
      (session.answer host (.near process request)).2.config =
        { session.config with emulate := mode } := by
    intro process request
    obtain ⟨_, _, hstarts, hbooks⟩ := session.near_starts host process request
    cases hstarts with
    | unwanted => exact ⟨_, hbooks.config⟩
    | refused => exact ⟨.off, hbooks.config⟩
    | granted => exact ⟨_, hbooks.config⟩
  cases operation with
  | near process request => exact hnear process request
  | window process count emulate history =>
    rcases session.answer_window host process count emulate history with
      ⟨request, hwindow⟩ | hwindow <;> rw [hwindow]
    · exact hnear process request
    · exact ⟨_, rfl⟩
  | one process address =>
    exact ⟨_, (session.one_sameBooks host.disassembler process address).config⟩
  | cached address => exact ⟨_, rfl⟩
  | reset => exact ⟨_, rfl⟩

theorem run_config (host : Host σ) (operations : List Operation) (session : Session) :
    ∃ mode, (run host operations session).2.config = { session.config with emulate := mode } := by
  induction operations generalizing session with
  | nil => exact ⟨_, rfl⟩
  | cons operation later ih =>
    obtain ⟨first, hfirst⟩ := session.answer_config host operation
    obtain ⟨mode, hmode⟩ := ih (session.answer host operation).2
    exact ⟨mode, hmode.trans (congrArg (fun config => { config with emulate := mode }) hfirst)⟩

/-! ### Reset -/

/-- After a reset, what a session shows is what a new session shows that has its configuration, with
emulation switched off where the session had switched it off, and that asks for resources if the
session had not asked yet. The two stay equal but for how often the host was asked before the
reset. -/
theorem run_reset (session : Session) (host : Host σ) (before later : List Operation) :
    let left := (run host before session).2
    let fresh : Session := {
      start { session.config with emulate := left.config.emulate } with
      firstEmulation := left.firstEmulation }
    (run host later left.reset).1 = (run host later fresh).1 ∧
      (run host later left.reset).2 =
        (run host later fresh).2.counting left.probes left.creations := by
  intro left fresh
  have hconfig : left.config = { session.config with emulate := left.config.emulate } := by
    obtain ⟨mode, hmode⟩ := run_config host before session
    simp only [left, hmode]
  -- The counters are all that a reset leaves beside what the new session was given.
  have hreset : left.reset = fresh.counting left.probes left.creations := by
    simp only [reset, counting, start, fresh, ← hconfig, Nat.add_zero]
  rw [hreset, run_counting]
  exact ⟨rfl, rfl⟩

end Session

end CodeWindow
