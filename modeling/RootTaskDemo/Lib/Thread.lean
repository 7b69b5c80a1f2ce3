import Mathlib.Order.Defs.Unbundled
import RootTaskDemo.Lib.Triple

namespace RootTaskDemo.Lib

/-! One thread of a server: a memory, the non-reentrant locks it holds, the
messages it has sent. A lock asked for while it is held is recorded in
`reentered` and the program goes on, so the record says whether the real thread
would have waited on itself. -/

structure World (Lock Message σ : Type) where
  held : List Lock
  reentered : List Lock
  sent : List Message
  memory : σ

abbrev Thread (Lock Message ε σ : Type) := EStateM ε (World Lock Message σ)

variable {Lock Message ε σ α β : Type} {value : α} {fault : ε} {memory : σ} {change : σ → σ}
  {lock : Lock} {message : Message} {last : β → σ → Prop}

namespace Thread

def read : Thread Lock Message ε σ σ := fun world => .ok world.memory world

def update (change : σ → σ) : Thread Lock Message ε σ Unit := fun world =>
  .ok () { world with memory := change world.memory }

def reply (message : Message) : Thread Lock Message ε σ Unit := fun world =>
  .ok () { world with sent := world.sent ++ [message] }

def stop (fault : ε) : Thread Lock Message ε σ α := fun world => .error fault world

def acquire [DecidableEq Lock] (lock : Lock) : Thread Lock Message ε σ Unit := fun world =>
  .ok () { world with
    held := lock :: world.held
    reentered := if lock ∈ world.held then world.reentered ++ [lock] else world.reentered }

def release [DecidableEq Lock] (lock : Lock) : Thread Lock Message ε σ Unit := fun world =>
  .ok () { world with held := world.held.erase lock }

def locked [DecidableEq Lock] (lock : Lock) (body : Thread Lock Message ε σ α) :
    Thread Lock Message ε σ α := do
  acquire lock
  let value ← body
  release lock
  return value

end Thread

open Thread

variable {program : Thread Lock Message ε σ α} {next : α → Thread Lock Message ε σ β}

/-- A triple about the memory alone. -/
def MemTriple (pre : σ → Prop) (program : Thread Lock Message ε σ α)
    (post : α → σ → Prop) (raised : ε → Prop) : Prop :=
  Triple (fun world => pre world.memory) program
    (fun value world => post value world.memory) (fun fault _ => raised fault)

abbrev RunFrom (memory : σ) (program : Thread Lock Message ε σ α) (post : α → σ → Prop)
    (raised : ε → Prop) : Prop :=
  MemTriple (fun now => now = memory) program post raised

/-- Whatever the program returns when it is run from a memory with `pre` meets `post`; it may also
stop. -/
abbrev Leads (pre : σ → Prop) (program : Thread Lock Message ε σ α) (post : α → σ → Prop) : Prop :=
  MemTriple pre program post (fun _ => True)

/-- The same from one memory. -/
abbrev Yields (memory : σ) (program : Thread Lock Message ε σ α) (post : α → σ → Prop) : Prop :=
  MemTriple (fun now => now = memory) program post (fun _ => True)

/-- The program returns, and what it returns meets `post`. -/
abbrev Delivers (memory : σ) (program : Thread Lock Message ε σ α) (post : α → σ → Prop) : Prop :=
  MemTriple (fun now => now = memory) program post (fun _ => False)

namespace MemTriple

variable {pre pre' : σ → Prop} {post post' : α → σ → Prop} {raised raised' : ε → Prop}

theorem triple (spec : MemTriple pre program post raised) :
    Triple (fun world => pre world.memory) program (fun value world => post value world.memory)
      (fun fault _ => raised fault) := spec

theorem of_triple (spec : Triple (fun world => pre world.memory) program (fun value world => post value world.memory)
    fun fault _ => raised fault) : MemTriple pre program post raised := spec

theorem pure (holds : ∀ memory, pre memory → post value memory) :
    MemTriple pre (Pure.pure value : Thread Lock Message ε σ α) post raised :=
  Triple.pure fun _ => holds _

theorem stop (holds : ∀ memory, pre memory → raised fault) :
    MemTriple pre (Thread.stop fault : Thread Lock Message ε σ α) post raised :=
  fun world => holds world.memory

theorem update {post : Unit → σ → Prop}
    (holds : ∀ memory, pre memory → post () (change memory)) :
    MemTriple pre (Thread.update change : Thread Lock Message ε σ Unit) post raised :=
  fun world => holds world.memory

theorem reply {post : Unit → σ → Prop}
    (holds : ∀ memory, pre memory → post () memory) :
    MemTriple pre (Thread.reply message : Thread Lock Message ε σ Unit) post raised :=
  fun world => holds world.memory

theorem bind {middle : α → σ → Prop}
    (first : MemTriple pre program middle raised)
    (rest : ∀ value, MemTriple (middle value) (next value) last raised) :
    MemTriple pre (program >>= next) last raised :=
  Triple.bind first rest

theorem fixed (each : ∀ memory, pre memory → MemTriple (fun now => now = memory) program post raised) :
    MemTriple pre program post raised :=
  fun world holds => each world.memory holds world rfl

theorem read_bind {next : σ → Thread Lock Message ε σ β}
    (rest : ∀ memory, pre memory → MemTriple (fun now => now = memory) (next memory) last raised) :
    MemTriple pre (Thread.read >>= next) last raised := by
  intro world holds
  exact rest world.memory holds world rfl

theorem updated :
    MemTriple (fun now => now = memory) (Thread.update change : Thread Lock Message ε σ Unit)
      (fun _ now => now = change memory) raised :=
  update fun _ same => congrArg change same

theorem update_bind {next : Unit → Thread Lock Message ε σ β}
    (rest : MemTriple (fun now => now = change memory) (next ()) last raised) :
    MemTriple (fun now => now = memory) (Thread.update change >>= next) last raised :=
  updated.bind fun _ => rest

theorem anything : MemTriple pre program (fun _ _ => True) (fun _ => True) := by
  intro world _
  cases program.run world <;> trivial

theorem weaken (triple : MemTriple pre' program post' raised')
    (strong : ∀ memory, pre memory → pre' memory)
    (weak : ∀ value memory, post' value memory → post value memory)
    (weakRaised : ∀ fault, raised' fault → raised fault) :
    MemTriple pre program post raised :=
  Triple.weaken triple (fun _ => strong _) (fun _ _ => weak _ _) (fun _ _ => weakRaised _)

theorem startingAt (triple : MemTriple pre program post raised) (holds : pre memory) :
    MemTriple (fun now => now = memory) program post raised :=
  triple.weaken (fun _ same => same ▸ holds) (fun _ _ kept => kept) fun _ fault => fault

theorem both (left : MemTriple pre program post raised) (right : MemTriple pre' program post' raised') :
    MemTriple (fun memory => pre memory ∧ pre' memory) program
      (fun value memory => post value memory ∧ post' value memory) (fun fault => raised fault ∧ raised' fault) :=
  Triple.both left right

theorem also (left : MemTriple pre program post raised)
    (right : MemTriple pre program post' fun _ => True) :
    MemTriple pre program (fun value memory => post value memory ∧ post' value memory) raised :=
  (left.both right).weaken (fun _ holds => ⟨holds, holds⟩) (fun _ _ both => both) fun _ fault => fault.1

theorem raising (triple : MemTriple pre program post fun _ => False) :
    MemTriple pre program post raised :=
  triple.weaken (fun _ holds => holds) (fun _ _ holds => holds) nofun

theorem mono (triple : MemTriple pre program post' raised)
    (weak : ∀ value memory, post' value memory → post value memory) :
    MemTriple pre program post raised :=
  triple.weaken (fun _ holds => holds) weak fun _ fault => fault

theorem onStop (triple : MemTriple pre program post raised')
    (weakRaised : ∀ fault, raised' fault → raised fault) :
    MemTriple pre program post raised :=
  triple.weaken (fun _ holds => holds) (fun _ _ holds => holds) weakRaised

theorem partly (triple : MemTriple pre program post' raised)
    (weak : ∀ value memory, post' value memory → post value memory) :
    MemTriple pre program post (fun _ => True) :=
  triple.weaken (fun _ holds => holds) weak fun _ _ => trivial

theorem meets (total : MemTriple (fun now => now = memory) program post fun _ => False)
    (known : MemTriple (fun now => now = memory) program post' raised') :
    ∃ value after, post value after ∧ post' value after := by
  have joint := (total.both known).weaken (fun _ same => ⟨same, same⟩) (fun _ _ spec => spec)
    fun _ never => never.1
  obtain ⟨value, after, -, spec⟩ :=
    Triple.returns joint (show (⟨[], [], [], memory⟩ : World Lock Message σ).memory = memory from rfl)
  exact ⟨value, after.memory, spec⟩

/-- A condition that is known of every return and denied by every stop decides
whether the program returns. -/
theorem returns_iff {condition : Prop}
    (decides : MemTriple (fun now => now = memory) program (fun _ _ => condition) fun _ => ¬ condition) :
    MemTriple (fun now => now = memory) program (fun _ _ => True) (fun _ => False) ↔ condition := by
  refine ⟨fun total => ?_, fun holds => decides.weaken (fun _ same => same) (fun _ _ _ => trivial)
    fun _ denied => denied holds⟩
  obtain ⟨_, _, -, holds⟩ := total.meets decides
  exact holds

def Returns (memory : σ) (program : Thread Lock Message ε σ α) (good : α → Prop) : Prop :=
  MemTriple (fun now => now = memory) program (fun value _ => good value) (fun _ => False)

theorem returns_iff_of {good : α → Prop} {condition : Prop}
    (decides : MemTriple (fun now => now = memory) program (fun value _ => good value ↔ condition)
      fun _ => ¬ condition) :
    Returns memory program good ↔ condition := by
  refine ⟨fun total => ?_, fun holds =>
    decides.weaken (fun _ same => same) (fun _ _ agree => agree.mpr holds)
    fun _ denied => denied holds⟩
  obtain ⟨_, _, reached, agree⟩ := total.meets decides
  exact agree.mp reached

/-- A loop over a list keeps what each round hands to the rounds that are left. -/
theorem foldlM {γ : Type} {step : β → γ → Thread Lock Message ε σ β} (invariant : List γ → β → σ → Prop)
    (each : ∀ item rest value, MemTriple (invariant (item :: rest) value) (step value item) (invariant rest) raised)
    (items : List γ) (value : β) : MemTriple (invariant items value) (items.foldlM step value) (invariant []) raised := by
  induction items generalizing value with
  | nil => exact pure fun _ holds => holds
  | cons item rest ih =>
    rw [List.foldlM_cons]
    exact bind (each item rest value) ih

/-- What follows a program only matters where the program can end. -/
theorem run_bind_congr (spec : MemTriple pre program post raised)
    {left right : α → Thread Lock Message ε σ β} {world : World Lock Message σ}
    (holds : pre world.memory)
    (same : ∀ value after, post value after.memory → (left value).run after = (right value).run after) :
    (program >>= left).run world = (program >>= right).run world := by
  have reached := spec world holds
  rw [EStateM.run_bind, EStateM.run_bind]
  cases outcome : program.run world with
  | ok value after =>
    rw [outcome] at reached
    exact same value after reached
  | error fault after => rfl

theorem locked_run_congr [DecidableEq Lock] {left right : Thread Lock Message ε σ α}
    {world : World Lock Message σ}
    (same : ∀ now, now.memory = world.memory → left.run now = right.run now) :
    (Thread.locked lock left).run world = (Thread.locked lock right).run world := by
  have acquired : MemTriple (fun now => now = world.memory) (acquire lock : Thread Lock Message ε σ Unit)
      (fun _ now => now = world.memory) (fun _ => True) := fun _ known => known
  refine acquired.run_bind_congr rfl fun _ now known => ?_
  rw [EStateM.run_bind, EStateM.run_bind, same now known]

theorem locked [DecidableEq Lock] (body : MemTriple pre program post raised) :
    MemTriple pre (Thread.locked lock program) post raised := by
  have acquired : MemTriple pre (Thread.acquire lock : Thread Lock Message ε σ Unit)
      (fun _ => pre) raised := fun _ holds => holds
  have released : ∀ value, MemTriple (post value) (Thread.release lock : Thread Lock Message ε σ Unit)
      (fun _ => post value) raised := fun _ _ holds => holds
  exact bind acquired fun _ => bind body fun value => bind (released value) fun _ =>
    pure fun _ holds => holds

end MemTriple

/-- Every run of the program from a memory in `invariant` that returns ends in
such a memory, and one that stops does so for a reason in `raised`. -/
def Preserves (invariant : σ → Prop) (raised : ε → Prop) (program : Thread Lock Message ε σ α) : Prop :=
  MemTriple invariant program (fun _ => invariant) raised

namespace Preserves

variable {invariant : σ → Prop} {raised : ε → Prop}

theorem pure : Preserves invariant raised (Pure.pure value : Thread Lock Message ε σ α) :=
  MemTriple.pure fun _ holds => holds

theorem stop (allowed : raised fault) :
    Preserves invariant raised (Thread.stop fault : Thread Lock Message ε σ α) :=
  MemTriple.stop fun _ _ => allowed

theorem update (kept : ∀ memory, invariant memory → invariant (change memory)) :
    Preserves invariant raised (Thread.update change : Thread Lock Message ε σ Unit) :=
  MemTriple.update kept

theorem bind (first : Preserves invariant raised program)
    (rest : ∀ value, Preserves invariant raised (next value)) :
    Preserves invariant raised (program >>= next) :=
  MemTriple.bind first rest

theorem followedBy (first : Preserves invariant raised program)
    (rest : ∀ value, MemTriple invariant (next value) last raised) :
    MemTriple invariant (program >>= next) last raised :=
  MemTriple.bind first rest

theorem read_bind {next : σ → Thread Lock Message ε σ β}
    (rest : ∀ memory, invariant memory → Preserves invariant raised (next memory)) :
    Preserves invariant raised (Thread.read >>= next) := by
  refine MemTriple.read_bind fun memory holds =>
    (rest memory holds).weaken ?_ (fun _ _ kept => kept) fun _ same => same
  rintro _ rfl
  exact holds

theorem locked [DecidableEq Lock] (body : Preserves invariant raised program) :
    Preserves invariant raised (Thread.locked lock program) :=
  MemTriple.locked body

end Preserves

/-- Every run of the program from a memory in `invariant` that returns ends in such
a memory, and one that stops does so in a memory that `stops` allows for the reason. -/
def Guarded (invariant : σ → Prop) (stops : ε → σ → Prop) (program : Thread Lock Message ε σ α) : Prop :=
  Triple (fun world => invariant world.memory) program (fun _ world => invariant world.memory)
    (fun fault world => stops fault world.memory)

namespace Guarded

variable {invariant : σ → Prop} {stops : ε → σ → Prop}

theorem pure : Guarded invariant stops (Pure.pure value : Thread Lock Message ε σ α) :=
  Triple.pure fun _ holds => holds

theorem reply : Guarded invariant stops (Thread.reply message : Thread Lock Message ε σ Unit) :=
  fun _ holds => holds

theorem bind (first : Guarded invariant stops program)
    (rest : ∀ value, Guarded invariant stops (next value)) :
    Guarded invariant stops (program >>= next) :=
  Triple.bind first rest

theorem locked [DecidableEq Lock] (body : Guarded invariant stops program) :
    Guarded invariant stops (Thread.locked lock program) := by
  have acquired : Guarded invariant stops (Thread.acquire lock : Thread Lock Message ε σ Unit) :=
    fun _ holds => holds
  have released : Guarded invariant stops (Thread.release lock : Thread Lock Message ε σ Unit) :=
    fun _ holds => holds
  exact acquired.bind fun _ => body.bind fun _ => released.bind fun _ => pure

theorem fixed
    (each : ∀ memory, invariant memory → Triple (fun world => world.memory = memory) program
      (fun _ world => invariant world.memory) (fun fault world => stops fault world.memory)) :
    Guarded invariant stops program :=
  fun world holds => each world.memory holds world rfl

theorem of_each (each : ∀ memory, invariant memory → MemTriple (fun now => now = memory) program (fun _ => invariant)
      (fun fault => ∀ after, stops fault after)) : Guarded invariant stops program :=
  (MemTriple.fixed each).triple.weaken (fun _ holds => holds) (fun _ _ holds => holds)
    fun _ _ allowed => allowed _

theorem keeps (guarded : Guarded invariant stops program) :
    MemTriple invariant program (fun _ => invariant) (fun _ => True) :=
  MemTriple.of_triple (Triple.weaken guarded (fun _ holds => holds) (fun _ _ holds => holds)
    fun _ _ _ => trivial)

end Guarded

/-- However a run from the memory ends, by a return or by a stop, `post` holds of the memory it
leaves. -/
def Ends (memory : σ) (program : Thread Lock Message ε σ α) (post : σ → Prop) : Prop :=
  Triple (fun world => world.memory = memory) program (fun _ world => post world.memory)
    (fun _ world => post world.memory)

namespace Ends

variable {memory : σ} {post post' : σ → Prop}

theorem bind (first : MemTriple (fun now => now = memory) program (fun value now => Ends now (next value) post) fun _ => False) :
    Ends memory (program >>= next) post := by
  have starts : Triple (fun world => world.memory = memory) program
    (fun value world => Ends world.memory (next value) post)
      (fun _ world => post world.memory) :=
    Triple.weaken first.triple (fun _ same => same) (fun _ _ spec => spec) fun _ _ never => never.elim
  exact Triple.bind starts fun value world ends => ends world rfl

theorem weaken (ends : Ends memory program post) (weak : ∀ now, post now → post' now) :
    Ends memory program post' :=
  Triple.weaken ends (fun _ same => same) (fun _ _ => weak _) fun _ _ => weak _

theorem meets (left : Ends memory program post) (right : Ends memory program post') :
    ∃ now, post now ∧ post' now := by
  have both := Triple.both left right ⟨[], [], [], memory⟩ ⟨rfl, rfl⟩
  cases outcome : program.run ⟨[], [], [], memory⟩ with
  | ok value world =>
    rw [outcome] at both
    exact ⟨world.memory, both⟩
  | error fault world =>
    rw [outcome] at both
    exact ⟨world.memory, both⟩

end Ends

/-- Every run of the program that returns takes the memory one step of `rel` further. -/
def Evolves (rel : σ → σ → Prop) (program : Thread Lock Message ε σ α) : Prop :=
  ∀ memory, MemTriple (fun now => now = memory) program (fun _ after => rel memory after) (fun _ => True)

namespace Evolves

variable {rel rel' : σ → σ → Prop}

theorem update (step : ∀ memory, rel memory (change memory)) :
    Evolves rel (Thread.update change : Thread Lock Message ε σ Unit) := by
  refine fun memory => MemTriple.update ?_
  rintro _ rfl
  exact step _

theorem stop : Evolves rel (Thread.stop fault : Thread Lock Message ε σ α) :=
  fun _ => MemTriple.stop fun _ _ => trivial

theorem mono (evolves : Evolves rel program)
    (weaker : ∀ memory after, rel memory after → rel' memory after) :
    Evolves rel' program :=
  fun memory => (evolves memory).weaken (fun _ same => same)
    (fun _ after step => weaker memory after step) fun _ _ => trivial

theorem locked [DecidableEq Lock] (body : Evolves rel program) :
    Evolves rel (Thread.locked lock program) :=
  fun memory => MemTriple.locked (body memory)

theorem read_bind {next : σ → Thread Lock Message ε σ β}
    (rest : ∀ memory, MemTriple (fun now => now = memory) (next memory)
      (fun _ after => rel memory after) (fun _ => True)) :
    Evolves rel (Thread.read >>= next) := by
  refine fun memory => MemTriple.read_bind ?_
  rintro _ rfl
  exact rest _

theorem keeps (evolves : Evolves rel program) {invariant : σ → Prop}
    (kept : ∀ memory after, rel memory after → invariant memory → invariant after) :
    MemTriple invariant program (fun _ => invariant) (fun _ => True) :=
  MemTriple.fixed fun memory holds => (evolves memory).weaken (fun _ same => same)
    (fun _ after step => kept memory after step holds) fun _ _ => trivial

variable [IsPreorder σ rel]

theorem pure : Evolves rel (Pure.pure value : Thread Lock Message ε σ α) := by
  refine fun memory => MemTriple.pure ?_
  rintro _ rfl
  exact refl_of rel _

theorem reply : Evolves rel (Thread.reply message : Thread Lock Message ε σ Unit) := by
  refine fun memory => MemTriple.reply ?_
  rintro _ rfl
  exact refl_of rel _

theorem read : Evolves rel (Thread.read : Thread Lock Message ε σ σ) := by
  rintro memory world rfl
  exact refl_of rel _

theorem bind (first : Evolves rel program) (rest : ∀ value, Evolves rel (next value)) :
    Evolves rel (program >>= next) := by
  refine fun memory => (first memory).bind fun value => MemTriple.fixed fun middle step => ?_
  exact (rest value middle).weaken (fun _ same => same) (fun _ _ later => trans_of rel step later)
    fun _ _ => trivial

end Evolves

/-- In the runs that start from a memory in `pre` the program asks for no lock
outside `locks`, for none of them twice, and drops every guard before it returns. -/
def LockSafe (pre : σ → Prop) (locks : Lock → Prop) (program : Thread Lock Message ε σ α) : Prop :=
  ∀ held reentered, (∀ lock ∈ held, ¬ locks lock) →
    Triple (fun world => (world.held = held ∧ world.reentered = reentered) ∧ pre world.memory) program
      (fun _ world => world.held = held ∧ world.reentered = reentered)
      (fun _ world => world.reentered = reentered)

namespace LockSafe

variable {pre pre' : σ → Prop} {locks locks' : Lock → Prop}

theorem pure :
    LockSafe pre locks (Pure.pure value : Thread Lock Message ε σ α) :=
  fun _ _ _ => Triple.pure fun _ holds => holds.1

theorem read : LockSafe pre locks (Thread.read : Thread Lock Message ε σ σ) :=
  fun _ _ _ _ holds => holds.1

theorem update :
    LockSafe pre locks (Thread.update change : Thread Lock Message ε σ Unit) :=
  fun _ _ _ _ holds => holds.1

theorem reply :
    LockSafe pre locks (Thread.reply message : Thread Lock Message ε σ Unit) :=
  fun _ _ _ _ holds => holds.1

theorem stop :
    LockSafe pre locks (Thread.stop fault : Thread Lock Message ε σ α) :=
  fun _ _ _ _ holds => holds.1.2

theorem mono (safe : LockSafe pre locks program) (strong : ∀ memory, pre' memory → pre memory)
    (covers : ∀ lock, locks lock → locks' lock) : LockSafe pre' locks' program :=
  fun held reentered free =>
    (safe held reentered fun lock member taken => free lock member (covers lock taken)).weaken
      (fun _ holds => ⟨holds.1, strong _ holds.2⟩) (fun _ _ holds => holds) fun _ _ holds => holds

theorem impossible (never : ∀ memory, ¬ pre memory) : LockSafe pre locks program :=
  fun _ _ _ world holds => absurd holds.2 (never world.memory)

theorem fixed (each : ∀ memory, pre memory → LockSafe (fun now => now = memory) locks program) :
    LockSafe pre locks program :=
  fun held reentered free world holds =>
    each world.memory holds.2 held reentered free world ⟨holds.1, rfl⟩

/-- What the first program makes of the memory may be used in the rest. -/
theorem bind {post : α → σ → Prop} {raised : ε → Prop} (safe : LockSafe pre locks program)
    (spec : MemTriple pre program post raised)
    (rest : ∀ value, LockSafe (post value) locks (next value)) :
    LockSafe pre locks (program >>= next) := by
  intro held reentered free
  have first : Triple (fun world => (world.held = held ∧ world.reentered = reentered) ∧ pre world.memory)
      program (fun value world => (world.held = held ∧ world.reentered = reentered) ∧ post value world.memory)
      (fun _ world => world.reentered = reentered) :=
    ((safe held reentered free).both spec).weaken (fun _ holds => ⟨holds, holds.2⟩)
      (fun _ _ holds => holds) fun _ _ holds => holds.1
  exact first.bind fun value => rest value held reentered free

theorem update_bind {next : Unit → Thread Lock Message ε σ β}
    (rest : LockSafe (fun now => now = change memory) locks (next ())) :
    LockSafe (fun now => now = memory) locks (Thread.update change >>= next) :=
  bind update (MemTriple.updated : MemTriple _ _ _ fun _ => True) fun _ => rest

theorem locked [DecidableEq Lock] (safe : LockSafe pre locks program)
    (outside : ¬ locks lock) (covers : ∀ other, other = lock ∨ locks other → locks' other) :
    LockSafe pre locks' (Thread.locked lock program) := by
  intro held reentered free
  have absent : lock ∉ held := fun member => free lock member (covers lock (Or.inl rfl))
  have inner : ∀ other ∈ lock :: held, ¬ locks other := by
    intro other member taken
    rcases List.mem_cons.mp member with same | member
    · exact outside (same ▸ taken)
    · exact free other member (covers other (Or.inr taken))
  have acquired : Triple (fun world => (world.held = held ∧ world.reentered = reentered) ∧
    pre world.memory)
      (Thread.acquire lock : Thread Lock Message ε σ Unit)
      (fun _ world => (world.held = lock :: held ∧ world.reentered = reentered) ∧ pre world.memory)
      (fun _ world => world.reentered = reentered) := by
    rintro world ⟨⟨rfl, rfl⟩, holds⟩
    exact ⟨⟨rfl, if_neg absent⟩, holds⟩
  have released : Triple (fun world => world.held = lock :: held ∧ world.reentered = reentered)
      (Thread.release lock : Thread Lock Message ε σ Unit)
      (fun _ world => world.held = held ∧ world.reentered = reentered)
      (fun _ world => world.reentered = reentered) := by
    rintro world ⟨heldEq, rfl⟩
    refine ⟨?_, rfl⟩
    change world.held.erase lock = held
    rw [heldEq, List.erase_cons_head]
  exact acquired.bind fun _ => (safe (lock :: held) reentered inner).bind fun _ =>
    released.bind fun _ => Triple.pure fun _ holds => holds

end LockSafe

/-- Every run of the program that returns has sent exactly `count` messages. -/
def Replies (count : Nat) (program : Thread Lock Message ε σ α) : Prop :=
  ∀ sent, Triple (fun world => world.sent = sent) program
    (fun _ world => ∃ new, new.length = count ∧ world.sent = sent ++ new) (fun _ _ => True)

namespace Replies

variable {count count' : Nat}

private theorem none_sent {world : World Lock Message σ} {sent : List Message}
    (same : world.sent = sent) : ∃ new, new.length = 0 ∧ world.sent = sent ++ new :=
  ⟨[], rfl, by rw [same, List.append_nil]⟩

theorem pure : Replies 0 (Pure.pure value : Thread Lock Message ε σ α) :=
  fun _ => Triple.pure fun _ same => none_sent same

theorem read : Replies 0 (Thread.read : Thread Lock Message ε σ σ) :=
  fun _ _ same => none_sent same

theorem update :
    Replies 0 (Thread.update change : Thread Lock Message ε σ Unit) :=
  fun _ _ same => none_sent same

theorem reply :
    Replies 1 (Thread.reply message : Thread Lock Message ε σ Unit) := by
  rintro _ world rfl
  exact ⟨[message], rfl, rfl⟩

theorem stop : Replies count (Thread.stop fault : Thread Lock Message ε σ α) :=
  fun _ _ _ => trivial

theorem bind (first : Replies count program) (rest : ∀ value, Replies count' (next value)) :
    Replies (count + count') (program >>= next) := by
  intro sent
  refine (first sent).bind fun value => ?_
  rintro world ⟨new, length, sentEq⟩
  have reached := rest value (sent ++ new) world sentEq
  cases outcome : (next value).run world with
  | ok result after =>
    rw [outcome] at reached
    obtain ⟨more, moreLength, afterEq⟩ := reached
    exact ⟨new ++ more, by rw [List.length_append, length, moreLength],
      by rw [afterEq, List.append_assoc]⟩
  | error fault after => trivial

theorem andThen (first : Replies 0 program) (rest : ∀ value, Replies count (next value)) :
    Replies count (program >>= next) := by
  simpa only [Nat.zero_add] using first.bind rest

theorem under_lock [DecidableEq Lock] (pre : σ → List Message → Prop)
    (post : α → σ → List Message → Prop) {raised : ε → Prop}
    (body : Triple (fun world => pre world.memory world.sent) program
      (fun value world => post value world.memory world.sent) (fun fault _ => raised fault)) :
    Triple (fun world => pre world.memory world.sent) (Thread.locked lock program)
      (fun value world => post value world.memory world.sent) (fun fault _ => raised fault) := by
  have acquired : Triple (fun world => pre world.memory world.sent)
      (Thread.acquire lock : Thread Lock Message ε σ Unit) (fun _ world => pre world.memory world.sent)
      (fun fault _ => raised fault) := fun _ holds => holds
  have released : ∀ value, Triple (fun world => post value world.memory world.sent)
      (Thread.release lock : Thread Lock Message ε σ Unit) (fun _ world => post value world.memory world.sent)
      (fun fault _ => raised fault) := fun _ _ holds => holds
  exact acquired.bind fun _ => body.bind fun value => (released value).bind fun _ =>
    Triple.pure fun _ holds => holds

theorem silently {pre : σ → Prop} {post : α → σ → Prop} {raised : ε → Prop}
    (silent : Replies 0 program) (spec : MemTriple pre program post raised) (sent : List Message) :
    Triple (fun world => pre world.memory ∧ world.sent = sent) program
      (fun value world => post value world.memory ∧ world.sent = sent) (fun fault _ => raised fault) := by
  refine (Triple.both spec (silent sent)).weaken (fun _ holds => holds) ?_ fun _ _ fault => fault.1
  rintro value world ⟨holds, new, length, sentEq⟩
  rw [List.length_eq_zero_iff.mp length, List.append_nil] at sentEq
  exact ⟨holds, sentEq⟩

theorem locked [DecidableEq Lock] (body : Replies count program) :
    Replies count (Thread.locked lock program) := by
  have acquired : Replies 0 (Thread.acquire lock : Thread Lock Message ε σ Unit) :=
    fun _ _ same => none_sent same
  have released : Replies 0 (Thread.release lock : Thread Lock Message ε σ Unit) :=
    fun _ _ same => none_sent same
  exact acquired.andThen fun _ => body.bind fun _ => released.andThen fun _ => pure

end Replies

def outcome (result : EStateM.Result ε (World Lock Message σ) α) : Except ε (α × σ) :=
  match result with
  | .ok value world => .ok (value, world.memory)
  | .error fault _ => .error fault

/-- The program as a function of the memory: its run with no guard held. -/
def effect (program : Thread Lock Message ε σ α) (memory : σ) : Except ε (α × σ) :=
  outcome (program.run { held := [], reentered := [], sent := [], memory })

/-- The guards that are held and the messages that were sent make no difference. -/
def Uniform (program : Thread Lock Message ε σ α) : Prop :=
  ∀ world, outcome (program.run world) = effect program world.memory

namespace Uniform

theorem pure : Uniform (Pure.pure value : Thread Lock Message ε σ α) := fun _ => rfl

theorem read : Uniform (Thread.read : Thread Lock Message ε σ σ) := fun _ => rfl

theorem update : Uniform (Thread.update change : Thread Lock Message ε σ Unit) :=
  fun _ => rfl

theorem reply : Uniform (Thread.reply message : Thread Lock Message ε σ Unit) :=
  fun _ => rfl

theorem stop : Uniform (Thread.stop fault : Thread Lock Message ε σ α) := fun _ => rfl

theorem outcome_bind (rest : ∀ value, Uniform (next value)) (world : World Lock Message σ) :
    outcome ((program >>= next).run world) =
      (outcome (program.run world)).bind fun reached => effect (next reached.1) reached.2 := by
  rw [EStateM.run_bind]
  cases program.run world with
  | ok value after => exact rest value after
  | error fault after => rfl

theorem bind (first : Uniform program) (rest : ∀ value, Uniform (next value)) :
    Uniform (program >>= next) := by
  intro world
  rw [effect, outcome_bind rest, outcome_bind rest, first world]
  rfl

theorem locked [DecidableEq Lock] (body : Uniform program) :
    Uniform (Thread.locked lock program) := by
  have acquired : Uniform (Thread.acquire lock : Thread Lock Message ε σ Unit) := fun _ => rfl
  have released : Uniform (Thread.release lock : Thread Lock Message ε σ Unit) := fun _ => rfl
  exact acquired.bind fun _ => body.bind fun _ => released.bind fun _ => pure

end Uniform

theorem MemTriple.of_effect (uniform : Uniform program) (memory : σ) :
    MemTriple (fun now => now = memory) program
      (fun value after => effect program memory = .ok (value, after))
      (fun fault => effect program memory = .error fault) := by
  rintro world rfl
  have same := uniform world
  cases ran : program.run world with
  | ok value after =>
    rw [ran] at same
    exact same.symm
  | error fault after =>
    rw [ran] at same
    exact same.symm

/-- The program keeps to `locks`, sends exactly `count` messages and is a
function of the memory. -/
structure Disciplined (locks : Lock → Prop) (count : Nat) (program : Thread Lock Message ε σ α) :
    Prop where
  lockSafe : LockSafe (fun _ => True) locks program
  replies : Replies count program
  uniform : Uniform program

namespace Disciplined

variable {locks locks' : Lock → Prop} {count count' : Nat}

theorem pure : Disciplined locks 0 (Pure.pure value : Thread Lock Message ε σ α) :=
  ⟨LockSafe.pure, Replies.pure, Uniform.pure⟩

theorem read : Disciplined locks 0 (Thread.read : Thread Lock Message ε σ σ) :=
  ⟨LockSafe.read, Replies.read, Uniform.read⟩

theorem update :
    Disciplined locks 0 (Thread.update change : Thread Lock Message ε σ Unit) :=
  ⟨LockSafe.update, Replies.update, Uniform.update⟩

theorem reply :
    Disciplined locks 1 (Thread.reply message : Thread Lock Message ε σ Unit) :=
  ⟨LockSafe.reply, Replies.reply, Uniform.reply⟩

theorem stop : Disciplined locks count (Thread.stop fault : Thread Lock Message ε σ α) :=
  ⟨LockSafe.stop, Replies.stop, Uniform.stop⟩

theorem bind (first : Disciplined locks count program)
    (rest : ∀ value, Disciplined locks count' (next value)) :
    Disciplined locks (count + count') (program >>= next) :=
  ⟨first.lockSafe.bind MemTriple.anything fun value => (rest value).lockSafe,
    first.replies.bind fun value => (rest value).replies,
    first.uniform.bind fun value => (rest value).uniform⟩

theorem andThen (first : Disciplined locks 0 program)
    (rest : ∀ value, Disciplined locks count (next value)) :
    Disciplined locks count (program >>= next) := by
  simpa only [Nat.zero_add] using first.bind rest

theorem mono (disciplined : Disciplined locks count program)
    (covers : ∀ lock, locks lock → locks' lock) : Disciplined locks' count program :=
  ⟨disciplined.lockSafe.mono (fun _ holds => holds) covers, disciplined.replies, disciplined.uniform⟩

theorem locked [DecidableEq Lock] (body : Disciplined locks count program)
    (outside : ¬ locks lock) (covers : ∀ other, other = lock ∨ locks other → locks' other) :
    Disciplined locks' count (Thread.locked lock program) :=
  ⟨body.lockSafe.locked outside covers, body.replies.locked, body.uniform.locked⟩

theorem safe {pre : σ → Prop} (disciplined : Disciplined locks count program) :
    LockSafe pre locks program :=
  disciplined.lockSafe.mono (fun _ _ => trivial) fun _ member => member

end Disciplined

-- Otherwise elaborating a step would run the program it is about.
attribute [irreducible] MemTriple

end RootTaskDemo.Lib
