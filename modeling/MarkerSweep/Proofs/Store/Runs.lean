import MarkerSweep.Proofs.Store.Memory
/-!
# Runs on a store in memory

Files in memory are cleaned again and again, in either mode and with any engine, and between two
calls anything else may happen to the store. What one call can come to is written down once, as a
relation with a case for each way out (`Memory.Effect`); everything said of a call is read off these
five cases, and the program is not opened again.

A call is safe if it keeps to its file: it tries to write only if it has to, no other file changes,
and none changes if it fails (`Memory.Call.Safe`). Since a call is safe whatever it finds, the calls
of a run all are, and the writes noted at the end are the ones that were due, in their order
(`Memory.run_calls_safe`).
-/

set_option autoImplicit false

namespace MarkerSweep

namespace Memory

/-! ## One call -/

/-- What cleaning a file in memory can come to: the result, and the memory afterwards. -/
inductive Effect (e : Engine) (path : Path) (mode : Mode) (m : Memory) :
    Except Failure Report → Memory → Prop
  | unread {error : IoError} : m.read path = .error error →
      Effect e path mode m (.error (Failure.ofCause (.read path error))) m
  | failed {before : String} {f : Failure} : m.read path = .ok before →
      (e.clean before path.display).value = .error f → Effect e path mode m (.error f) m
  | kept {before cleaned : String} {summary : Summary} : m.read path = .ok before →
      (e.clean before path.display).value = .ok (cleaned, summary) →
      ¬ (cleaned ≠ before ∧ mode = .write) →
      Effect e path mode m (.ok ⟨path, cleaned != before, false, before, cleaned, summary⟩) m
  | written {before cleaned : String} {summary : Summary} : m.read path = .ok before →
      (e.clean before path.display).value = .ok (cleaned, summary) →
      cleaned ≠ before ∧ mode = .write → m.readOnly = false →
      Effect e path mode m (.ok ⟨path, cleaned != before, true, before, cleaned, summary⟩)
        ({ m with writes := m.writes ++ [path] }.put path cleaned)
  | refused {before cleaned : String} {summary : Summary} : m.read path = .ok before →
      (e.clean before path.display).value = .ok (cleaned, summary) →
      cleaned ≠ before ∧ mode = .write → m.readOnly = true →
      Effect e path mode m (.error (Failure.ofCause (.write path .permissionDenied)))
        { m with writes := m.writes ++ [path] }

/-- A call that cleans a file, with the memory before and after it. -/
structure Call where
  engine : Engine
  path : Path
  mode : Mode
  before : Memory
  result : Except Failure Report
  after : Memory

/-- Cleans a file. -/
def call (m : Memory) (e : Engine) (path : Path) (mode : Mode) : Call :=
  let answer := (Cleaner.clean e path mode : StateM Memory _).run m
  ⟨e, path, mode, m, answer.1.value, answer.2⟩

theorem effect_call (m : Memory) (e : Engine) (path : Path) (mode : Mode) :
    Effect e path mode m (m.call e path mode).result (m.call e path mode).after := by
  change Effect e path mode m (Cleaner.call e path mode m).1 (Cleaner.call e path mode m).2
  cases hread : m.read path with
  | error error =>
    rw [Cleaner.call_of_unread hread]
    exact .unread hread
  | ok before =>
    cases hengine : (e.clean before path.display).value with
    | error f =>
      rw [Cleaner.call_of_failed hread hengine]
      exact .failed hread hengine
    | ok answer =>
      obtain ⟨cleaned, summary⟩ := answer
      by_cases hdue : cleaned ≠ before ∧ mode = .write
      · cases hm : m.readOnly with
        | false =>
          have hwrite : Cleaner.attempt path cleaned m = _ := write_of_not_readOnly hm
          rw [Cleaner.call_of_written hread hengine hdue hwrite]
          exact .written hread hengine hdue hm
        | true =>
          have hwrite : Cleaner.attempt path cleaned m = _ := write_of_readOnly hm
          rw [Cleaner.call_of_refused hread hengine hdue hwrite]
          exact .refused hread hengine hdue hm
      · rw [Cleaner.call_of_kept hread hengine hdue]
        exact .kept hread hengine hdue

namespace Call

/-- The file can be read, the engine makes another text of it, and writing is asked for. -/
def Due (c : Call) : Prop :=
  ∃ text cleaned summary, c.before.read c.path = .ok text ∧
    (c.engine.clean text c.path.display).value = .ok (cleaned, summary) ∧
    cleaned ≠ text ∧ c.mode = .write

theorem not_due_of_read {c : Call} {error : IoError} (h : c.before.read c.path = .error error) :
    ¬ c.Due := by
  rintro ⟨text, cleaned, summary, hread, -⟩
  rw [h] at hread
  cases hread

theorem not_due_of_engine {c : Call} {text : String} {f : Failure}
    (hread : c.before.read c.path = .ok text)
    (h : (c.engine.clean text c.path.display).value = .error f) : ¬ c.Due := by
  rintro ⟨text', cleaned, summary, hread', hengine, -⟩
  rw [hread, Except.ok.injEq] at hread'
  subst hread'
  rw [h] at hengine
  cases hengine

theorem due_iff {c : Call} {text cleaned : String} {summary : Summary}
    (hread : c.before.read c.path = .ok text)
    (hengine : (c.engine.clean text c.path.display).value = .ok (cleaned, summary)) :
    c.Due ↔ cleaned ≠ text ∧ c.mode = .write := by
  constructor
  · rintro ⟨text', cleaned', summary', hread', hengine', hdue⟩
    rw [hread, Except.ok.injEq] at hread'
    subst hread'
    rw [hengine, Except.ok.injEq, Prod.mk.injEq] at hengine'
    exact hengine'.1 ▸ hdue
  · exact fun hdue => ⟨text, cleaned, summary, hread, hengine, hdue⟩

instance : DecidablePred Due := fun c =>
  match hread : c.before.read c.path with
  | .error _ => isFalse (not_due_of_read hread)
  | .ok text =>
    match hengine : (c.engine.clean text c.path.display).value with
    | .error _ => isFalse (not_due_of_engine hread hengine)
    | .ok _ => decidable_of_iff _ (due_iff hread hengine).symm

/-- The writes that the call attempts, a refused one included. -/
def attempts (c : Call) : List Path := if c.Due then [c.path] else []

/-- The file cannot be read, the engine fails on it, or a write is due and the store refuses it. -/
def Blocked (c : Call) : Prop :=
  (∃ error, c.before.read c.path = .error error) ∨
    (∃ text f, c.before.read c.path = .ok text ∧
      (c.engine.clean text c.path.display).value = .error f) ∨
    (c.Due ∧ c.before.readOnly = true)

theorem blocked_iff {c : Call} {text cleaned : String} {summary : Summary}
    (hread : c.before.read c.path = .ok text)
    (hengine : (c.engine.clean text c.path.display).value = .ok (cleaned, summary)) :
    c.Blocked ↔ c.Due ∧ c.before.readOnly = true := by
  constructor
  · rintro (⟨error, h⟩ | ⟨text', f, h, hf⟩ | h)
    · rw [hread] at h
      cases h
    · rw [hread, Except.ok.injEq] at h
      subst h
      rw [hengine] at hf
      cases hf
    · exact h
  · exact fun h => .inr (.inr h)

/-- A call does to the memory what it reports, and leaves the files alone if it fails. -/
structure Safe (c : Call) : Prop where
  writes : c.after.writes = c.before.writes ++ c.attempts
  ok : ∀ report, c.result = .ok report →
    c.before.read c.path = .ok report.before ∧
    (c.engine.clean report.before c.path.display).value = .ok (report.cleaned, report.summary) ∧
    (report.written = true ↔ c.Due) ∧
    ∀ q, c.after.get? q =
      if report.written ∧ c.path.same q then some report.cleaned else c.before.get? q
  error : ∀ f, c.result = .error f → c.after.files = c.before.files
  error_iff : (∃ f, c.result = .error f) ↔ c.Blocked
  readOnly : c.after.readOnly = c.before.readOnly

theorem safe_of_effect {c : Call} (h : Effect c.engine c.path c.mode c.before c.result c.after) :
    c.Safe := by
  generalize hresult : c.result = result at h
  generalize hafter : c.after = after at h
  cases h with
  | unread hread =>
    have hdue := not_due_of_read hread
    constructor
    · simp [hafter, attempts, hdue]
    · simp [hresult]
    · simp [hafter]
    · exact ⟨fun _ => .inl ⟨_, hread⟩, fun _ => ⟨_, hresult⟩⟩
    · rw [hafter]
  | failed hread hengine =>
    have hdue := not_due_of_engine hread hengine
    constructor
    · simp [hafter, attempts, hdue]
    · simp [hresult]
    · simp [hafter]
    · exact ⟨fun _ => .inr (.inl ⟨_, _, hread, hengine⟩), fun _ => ⟨_, hresult⟩⟩
    · rw [hafter]
  | kept hread hengine hkept =>
    have hdue : ¬ c.Due := fun h => hkept ((due_iff hread hengine).mp h)
    constructor
    · simp [hafter, attempts, hdue]
    · intro report hok
      obtain rfl := Except.ok.inj (hresult.symm.trans hok)
      exact ⟨hread, hengine, by simp [hdue], by simp [hafter]⟩
    · simp [hresult]
    · simp [hresult, blocked_iff hread hengine, hdue]
    · rw [hafter]
  | written hread hengine hwrite hm =>
    have hdue := (due_iff hread hengine).mpr hwrite
    constructor
    · simp [hafter, attempts, hdue, put]
    · intro report hok
      obtain rfl := Except.ok.inj (hresult.symm.trans hok)
      refine ⟨hread, hengine, by simp [hdue], fun q => ?_⟩
      rw [hafter, get?_put]
      simp [get?]
    · simp [hresult]
    · simp [hresult, blocked_iff hread hengine, hm]
    · rw [hafter, put]
  | refused hread hengine hwrite hm =>
    have hdue := (due_iff hread hengine).mpr hwrite
    constructor
    · simp [hafter, attempts, hdue]
    · simp [hresult]
    · simp [hafter]
    · simp [hresult, blocked_iff hread hengine, hdue, hm]
    · rw [hafter]

end Call

theorem safe_call (m : Memory) (e : Engine) (path : Path) (mode : Mode) :
    (m.call e path mode).Safe := Call.safe_of_effect (effect_call m e path mode)

/-! ## Runs -/

/-- What can happen to the memory: a file is cleaned, or it is changed from outside. Every call has an
engine of its own, so an engine need not answer as it did before. -/
inductive Action
  | clean (engine : Engine) (path : Path) (mode : Mode)
  | put (path : Path) (text : String)
  | remove (path : Path)
  | setReadOnly (value : Bool)

def perform (m : Memory) : Action → Memory
  | .clean e path mode => (m.call e path mode).after
  | .put path text => m.put path text
  | .remove path => (m.remove path).1
  | .setReadOnly value => { m with readOnly := value }

def run (m : Memory) (actions : List Action) : Memory := actions.foldl perform m

/-- The calls of a run, in their order. -/
def calls (m : Memory) : List Action → List Call
  | [] => []
  | .clean e path mode :: rest =>
    m.call e path mode :: calls (m.perform (.clean e path mode)) rest
  | action :: rest => calls (m.perform action) rest

/-- Only calls note writes. -/
theorem writes_run (m : Memory) (actions : List Action) :
    (m.run actions).writes = m.writes ++ (m.calls actions).flatMap Call.attempts := by
  induction actions generalizing m with
  | nil => simp [run, calls]
  | cons action rest ih =>
    have hrest := ih (m.perform action)
    rw [run, List.foldl_cons, ← run, hrest]
    cases action with
    | clean e path mode =>
      rw [calls, List.flatMap_cons, ← List.append_assoc, perform, (safe_call m e path mode).writes]
      rfl
    | put | remove | setReadOnly => rfl

/-- In a run of calls, in either mode and with engines that may answer anything, among changes from
outside, every call is safe, and the writes noted are those that were due, in their order. -/
theorem run_calls_safe (m : Memory) (actions : List Action) :
    (∀ c ∈ m.calls actions, c.Safe) ∧
      (m.run actions).writes = m.writes ++ (m.calls actions).flatMap Call.attempts := by
  refine ⟨?_, writes_run m actions⟩
  induction actions generalizing m with
  | nil => simp [calls]
  | cons action rest ih =>
    cases action with
    | clean e path mode => exact List.forall_mem_cons.mpr ⟨safe_call m e path mode, ih _⟩
    | put | remove | setReadOnly => exact ih _

end Memory

end MarkerSweep
