import RootTaskDemo.Kernel.BookRuns
import RootTaskDemo.Kernel.Records

namespace RootTaskDemo.Shim

open Common Lib Kernel

variable {ν : Type}
variable {badge : Nat}

/-! `vsyscall_handler`, which the shim and the test thread run in front of every
system call of an application, and the threads that are in the middle of it. -/

/-- The rest of a call of the handler: the words it writes to the message registers
before the next `ep.call`, and what it does with the reply and the registers. -/
inductive Handler where
  | returned (value : UInt64)
  | failed
  | call (words : List UInt64) (resume : MessageInfo → MsgRegs → Handler)

def wordSize : Nat := 8

def sysCallInfo : MessageInfo := ⟨CustomMessageLabel.sysCall.toLabel, 0, 0, 7 * wordSize⟩

variable (gettid clone : UInt64)

/-- The registers are left as the reply set them. -/
def getTid (next : MsgRegs → Handler) : Handler := .call [gettid] fun _ regs => next regs

/-- The result is read from the registers as they are now. -/
def finish (message : MessageInfo) (regs : MsgRegs) : Handler :=
  if message.length ≠ wordSize then .failed else .returned (regs 0)

def afterCall (prevId : UInt64) (message : MessageInfo) (regs : MsgRegs) : Handler :=
  if prevId ≠ 0 then
    getTid gettid fun regs => if regs 0 ≠ prevId then .returned 0 else finish message regs
  else finish message regs

def issue (id : UInt64) (args : Vector UInt64 6) (prevId : UInt64) : Handler :=
  .call (id :: args.toList) (afterCall gettid prevId)

def vsyscallHandler (id : UInt64) (args : Vector UInt64 6) : Handler :=
  if id = clone then getTid gettid fun regs => issue gettid id args (regs 0) else issue gettid id args 0

/-- A thread in the handler, with message registers of its own. All words of a call are taken to
arrive, as they do for threads whose IPC buffers are apart and where the handler writes them. -/
structure Caller where
  handler : Handler
  regs : MsgRegs

/-- The kernel thread and the threads in the handler, by badge. The calls are answered one by one,
each before the next is received, so that a reply goes to the thread whose turn it is. -/
structure System (ν : Type) where
  kernel : KernelWorld ν
  callers : Nat → Option Caller

/-- Whose turn it is, what seL4 makes of a clone, and the message registers that a
new thread finds behind the call. A thread with an entry point of its own starts elsewhere. -/
structure Turn where
  badge : Nat
  outcome : CloneOutcome
  child : Option MsgRegs

variable {gettid clone} (env : Env ν)

def Turn.input (turn : Turn) (regs : MsgRegs) : KernelInput :=
  { badge := turn.badge, incoming := .message sysCallInfo regs, outcome := turn.outcome }

def System.message (system : System ν) (badge : Nat) : Option MsgRegs :=
  match system.callers badge with
  | some ⟨.call words _, regs⟩ => some (regs.write words)
  | _ => none

def System.result (system : System ν) (turn : Turn) : Option SysResult :=
  (system.message turn.badge).bind fun regs =>
    returnValue ((handleIpcCall env turn.outcome turn.badge (regs 0).toNat fun index =>
      (regs (index + 1)).toNat).run
      { system.kernel with memory := { system.kernel.memory with msgRegs := regs } })

/-- The threads once a call is answered: the caller goes on, and so does a thread that was started
by it. -/
def System.answer (system : System ν) (turn : Turn) (resume : MessageInfo → MsgRegs → Handler)
    (regs : MsgRegs) (kernel : KernelWorld ν) (words : List UInt64) : System ν where
  kernel := kernel
  callers key :=
    if key = turn.badge then some ⟨resume ⟨0, 0, 0, wordSize * words.length⟩ (regs.write words),
      regs.write words⟩
    else if (system.callers key).isNone ∧ key ∈ kernel.memory.tasks ∧ key ∉ system.kernel.memory.tasks then
      turn.child.map fun regs => ⟨resume sysCallInfo regs, regs⟩
    else system.callers key

/-- A thread makes its next call. The reply is the last message that the kernel thread sent. -/
def System.step (system : System ν) (turn : Turn) : Option (System ν) :=
  match system.callers turn.badge with
  | some ⟨.call words resume, regs⟩ =>
    match (serve env (turn.input (regs.write words))).run system.kernel with
    | .error _ _ => none
    | .ok _ kernel => kernel.sent.getLast?.map fun reply => system.answer turn resume (regs.write words) kernel reply
  | _ => none

def System.run (system : System ν) : List Turn → Option (System ν)
  | [] => some system
  | turn :: rest => (system.step env turn).bind fun next => next.run rest

def System.returned (system : System ν) (badge : Nat) : Option UInt64 :=
  match system.callers badge with
  | some ⟨.returned value, _⟩ => some value
  | _ => none

/-- Whatever the order in which the threads go on, the parent returns the child's
name and the child zero. -/
def ClonesRight (system : System ν) (parent child : Nat) : Prop :=
  ∀ (turns : List Turn) (last : System ν), system.run env turns = some last →
    (∀ value, last.returned parent = some value → value = UInt64.ofNat child) ∧
    ∀ value, last.returned child = some value → value = 0

theorem serve_sysCall (turn : Turn) (regs : MsgRegs) (kernel : KernelWorld ν) :
    (serve env (turn.input regs)).run kernel =
      match (handleIpcCall env turn.outcome turn.badge (regs 0).toNat fun index => (regs (index + 1)).toNat).run
        { kernel with memory := { kernel.memory with msgRegs := regs } } with
      | .error fault after => .error fault after
      | .ok result after => .ok () { after with
          memory := { after.memory with msgRegs := after.memory.msgRegs.write [resultWord result] }
          sent := after.sent ++ [[resultWord result]] } := by
  have decoded : CustomMessageLabel.tryFrom sysCallInfo = some .sysCall := by decide
  unfold serve Turn.input
  simp only [decoded]
  change ((handleIpcCall env turn.outcome turn.badge (regs 0).toNat fun index =>
    (regs (index + 1)).toNat) >>=
    fun result => replyWith [resultWord result]).run
      { kernel with memory := { kernel.memory with msgRegs := regs } } = _
  rw [EStateM.run_bind]
  cases (handleIpcCall env turn.outcome turn.badge (regs 0).toNat fun index =>
    (regs (index + 1)).toNat).run
      { kernel with memory := { kernel.memory with msgRegs := regs } } with
  | ok result after => rfl
  | error fault after => rfl

variable {env}

theorem step_other {system next : System ν} {turn : Turn} {caller : Caller} (other : turn.badge ≠ badge)
    (found : system.callers badge = some caller) (stepped : system.step env turn = some next) :
    next.callers badge = some caller := by
  unfold System.step at stepped
  split at stepped
  · split at stepped
    · cases stepped
    · obtain ⟨reply, -, rfl⟩ := Option.map_eq_some_iff.mp stepped
      simp only [System.answer, if_neg other.symm, found, Option.isNone_some, Bool.false_eq_true, false_and, if_false]
  · cases stepped

theorem run_others {system last : System ν} {turns : List Turn} {caller : Caller}
    (others : ∀ turn ∈ turns, turn.badge ≠ badge) (found : system.callers badge = some caller)
    (ran : system.run env turns = some last) : last.callers badge = some caller := by
  induction turns generalizing system with
  | nil =>
    cases ran
    exact found
  | cons turn rest ih =>
    obtain ⟨next, stepped, ran⟩ := Option.bind_eq_some_iff.mp ran
    have still := step_other (others turn (List.mem_cons_self ..)) found stepped
    exact ih (fun turn member => others turn (List.mem_cons_of_mem _ member)) still ran

theorem step_answers {system next : System ν} {turn : Turn} {words : List UInt64}
    {resume : MessageInfo → MsgRegs → Handler} {regs : MsgRegs}
    (found : system.callers turn.badge = some ⟨.call words resume, regs⟩)
    (stepped : system.step env turn = some next) :
    ∃ result, system.result env turn = some result ∧ next.callers turn.badge =
      some ⟨resume ⟨0, 0, 0, wordSize⟩ ((regs.write words).write [resultWord result]),
        (regs.write words).write [resultWord result]⟩ := by
  unfold System.step at stepped
  rw [found] at stepped
  dsimp only at stepped
  rw [serve_sysCall] at stepped
  simp only [System.result, System.message, found, Option.bind_some]
  cases outcome : (handleIpcCall env turn.outcome turn.badge ((regs.write words) 0).toNat fun index =>
      ((regs.write words) (index + 1)).toNat).run
        { system.kernel with memory := { system.kernel.memory with msgRegs := regs.write words } } with
  | error fault after =>
    rw [outcome] at stepped
    cases stepped
  | ok result after =>
    rw [outcome] at stepped
    simp only [List.getLast?_append, List.getLast?_singleton, Option.some_or, Option.map_some] at stepped
    cases stepped
    refine ⟨result, rfl, ?_⟩
    simp only [System.answer, if_pos]
    rfl

theorem step_self {system next : System ν} {turn : Turn} (own : turn.badge = badge)
    {words : List UInt64} {resume : MessageInfo → MsgRegs → Handler} {regs : MsgRegs}
    {result : SysResult} (found : system.callers badge = some ⟨.call words resume, regs⟩)
    (returned : system.result env turn = some result) (stepped : system.step env turn = some next) :
    next.callers badge = some ⟨resume ⟨0, 0, 0, wordSize⟩ ((regs.write words).write [resultWord result]),
      (regs.write words).write [resultWord result]⟩ := by
  subst own
  obtain ⟨answer, answered, callers⟩ := step_answers found stepped
  cases returned.symm.trans answered
  exact callers

theorem step_getTid {system : System ν} (turn : Turn) (own : turn.badge = badge)
    {next : MsgRegs → Handler} {regs : MsgRegs} (known : env.sysno gettid.toNat = some .gettid)
    (found : system.callers badge = some ⟨getTid gettid next, regs⟩) :
    ∃ after regs', system.step env turn = some after ∧ regs' 0 = UInt64.ofNat badge ∧
      after.callers badge = some ⟨next regs', regs'⟩ := by
  subst own
  have number : (regs.write [gettid]) 0 = gettid := rfl
  have asked : (handleIpcCall env turn.outcome turn.badge ((regs.write [gettid]) 0).toNat fun index =>
      ((regs.write [gettid]) (index + 1)).toNat) = pure (.ok turn.badge) := by
    unfold handleIpcCall
    rw [number, known]
    rfl
  have returned : system.result env turn = some (.ok turn.badge) := by
    simp only [System.result, System.message, found, getTid, Option.bind_some]
    rw [asked]
    rfl
  have stepped : ∃ after, system.step env turn = some after := by
    unfold System.step
    rw [found]
    dsimp only [getTid]
    rw [serve_sysCall, asked]
    simp only [EStateM.run_pure, List.getLast?_append, List.getLast?_singleton, Option.some_or, Option.map_some]
    exact ⟨_, rfl⟩
  obtain ⟨after, stepped⟩ := stepped
  exact ⟨after, _, stepped, rfl, step_self rfl found returned stepped⟩

/-- A call of the handler up to the answer of its clone. Others may take their turns in between. -/
structure CloneCall (env : Env ν) (gettid clone : UInt64) (parent child : Nat) where
  args : Vector UInt64 6
  regs : MsgRegs
  (system asked waited cloned : System ν)
  (first second : Turn)
  between : List Turn
  entered : system.callers parent = some ⟨vsyscallHandler gettid clone clone args, regs⟩
  own : first.badge = parent ∧ second.badge = parent
  asks : system.step env first = some asked
  others : ∀ turn ∈ between, turn.badge ≠ parent
  waits : asked.run env between = some waited
  clones : waited.step env second = some cloned
  answered : waited.result env second = some (.ok child)

variable {parent child : Nat}

theorem CloneCall.calling (call : CloneCall env gettid clone parent child)
    (known : env.sysno gettid.toNat = some .gettid) :
    ∃ regs, call.waited.callers parent = some ⟨issue gettid clone call.args (UInt64.ofNat parent), regs⟩ := by
  have entered := call.entered
  unfold vsyscallHandler at entered
  rw [if_pos rfl] at entered
  obtain ⟨after, regs, stepped, name, caller⟩ := step_getTid call.first call.own.1 known entered
  rw [call.asks] at stepped
  cases stepped
  rw [name] at caller
  exact ⟨regs, run_others call.others caller call.waits⟩

theorem CloneCall.fresh (call : CloneCall env gettid clone parent child)
    (known : env.sysno gettid.toNat = some .gettid) (clones : env.sysno clone.toNat = some .clone)
    (kernel : call.waited.kernel.memory.cspace kernelVSpace = some (.vspace kernelVSpace)) :
    call.waited.kernel.memory.idCounter ≤ child := by
  obtain ⟨regs, caller⟩ := call.calling known
  have answered := call.answered
  simp only [System.result, System.message, call.own.2, caller, issue, Option.bind_some] at answered
  have number : (regs.write (clone :: call.args.toList)) 0 = clone := rfl
  rw [number] at answered
  unfold handleIpcCall at answered
  rw [clones] at answered
  dsimp only at answered
  cases outcome : (sysClone env.platform env.decodeCloneArgs call.second.outcome parent
      ((regs.write (clone :: call.args.toList)) (0 + 1)).toNat).run
      { call.waited.kernel with
        memory := { call.waited.kernel.memory with msgRegs := regs.write (clone :: call.args.toList) } } with
  | error fault after =>
    rw [outcome] at answered
    cases answered
  | ok result after =>
    rw [outcome] at answered
    cases answered
    let memory : KernelState ν :=
      { call.waited.kernel.memory with msgRegs := regs.write (clone :: call.args.toList) }
    have spec : RunFrom memory (sysClone env.platform env.decodeCloneArgs call.second.outcome parent
        ((regs.write (clone :: call.args.toList)) (0 + 1)).toNat) _ _ := sysClone_id _ _ _ _ kernel
    exact spec.triple.of_run rfl outcome child rfl

/-- The reply to the second question for the name takes the place of the child's. -/
theorem clone_return_lost (call : CloneCall env gettid clone parent child)
    (known : env.sysno gettid.toNat = some .gettid) (clones : env.sysno clone.toNat = some .clone)
    (kernel : call.waited.kernel.memory.cspace kernelVSpace = some (.vspace kernelVSpace))
    (positive : 0 < parent) (named : parent < call.waited.kernel.memory.idCounter)
    (bound : child < 2 ^ 64) :
    ¬ ClonesRight env call.cloned parent child := by
  intro right
  have fresh := call.fresh known clones kernel
  have word : ∀ {id : Nat}, id < 2 ^ 64 → (UInt64.ofNat id).toNat = id := by
    intro id bound
    rw [UInt64.toNat_ofNat', Nat.mod_eq_of_lt bound]
  have nonzero : UInt64.ofNat parent ≠ 0 := by
    intro zero
    have := congrArg UInt64.toNat zero
    rw [word (by omega)] at this
    exact positive.ne' this
  obtain ⟨regs, caller⟩ := call.calling known
  have next := step_self call.own.2 caller call.answered call.clones
  unfold afterCall at next
  rw [if_pos nonzero] at next
  let turn : Turn := { badge := parent, outcome := call.second.outcome, child := none }
  obtain ⟨last, regs', stepped, name, returned⟩ := step_getTid turn rfl known next
  rw [if_neg (by rw [name]; exact fun different => different rfl)] at returned
  have value : last.returned parent = some (UInt64.ofNat parent) := by
    have finished : last.callers parent = some ⟨.returned (regs' 0), regs'⟩ := returned
    unfold System.returned
    rw [finished, name]
  have ran : call.cloned.run env [turn] = some last := by
    unfold System.run
    rw [stepped]
    rfl
  have same := congrArg UInt64.toNat ((right [turn] last ran).1 _ value)
  rw [word (by omega), word bound] at same
  omega

/-! The first task of the small system clones itself. -/

def cloningSystem : System Unit where
  kernel := finalState ((startChild smallEnv 0).run (KernelWorld.boot ()))
  callers badge := if badge = 1 then some ⟨vsyscallHandler 178 220 220 #v[0x10000, 0, 0, 0, 0, 0],
    fun _ => 0⟩ else none

def parentTurn : Turn := { badge := 1, outcome := ⟨true, true, true⟩, child := some fun _ => 0 }

def cloningCall : CloneCall smallEnv 178 220 1 2 where
  args := #v[0x10000, 0, 0, 0, 0, 0]
  regs _ := 0
  system := cloningSystem
  asked := (cloningSystem.step smallEnv parentTurn).get (by decide +kernel)
  waited := (cloningSystem.step smallEnv parentTurn).get (by decide +kernel)
  cloned := (((cloningSystem.step smallEnv parentTurn).get (by decide +kernel)).step smallEnv
    parentTurn).get
    (by decide +kernel)
  first := parentTurn
  second := parentTurn
  between := []
  entered := rfl
  own := ⟨rfl, rfl⟩
  asks := (Option.some_get _).symm
  others := nofun
  waits := rfl
  clones := (Option.some_get _).symm
  answered := by decide +kernel

theorem clone_return_lost_cloningCall : ¬ ClonesRight smallEnv cloningCall.cloned 1 2 :=
  clone_return_lost cloningCall rfl rfl (by decide +kernel) (by decide) (by decide +kernel) (by decide)

/-- The kernel thread answers two, the handler of the parent returns one. -/
theorem clone_returns_own_name :
    ((cloningSystem.run smallEnv [parentTurn]).bind fun system =>
      system.result smallEnv parentTurn) = some (.ok 2) ∧
    ((cloningSystem.run smallEnv [parentTurn, parentTurn, parentTurn]).bind fun system =>
      system.returned 1) = some 1 := by
  decide +kernel

end RootTaskDemo.Shim
