import RootTaskDemo.Net.Ports
import RootTaskDemo.Net.SocketOwnership

namespace RootTaskDemo.Net

open Common Lib Thread
open Function (update_self update_of_ne)

variable {smol : Smoltcp} {α : Type} {handle : SocketHandle}
variable {self : TcpSocket} {f : TcpSocket → NetM smol (AxResult α × TcpSocket)}
  {state : NetState smol}

/-! What the operations on a socket leave alone: the socket table, the listeners,
and, but for a connection that an accept takes out of a queue, the account of the
handles in the socket set. -/

namespace NetState

def listener (state : NetState smol) (port : Nat) : Option IpListenEndpoint :=
  if inside : port < portNum then (state.listenTable ⟨port, inside⟩).map (·.listenEndpoint) else none

def Queued (state : NetState smol) (handle : SocketHandle) : Prop :=
  ∃ slot entry, state.listenTable slot = some entry ∧ handle ∈ entry.synQueue

def QueuesBounded (state : NetState smol) : Prop :=
  ∀ slot entry, state.listenTable slot = some entry → entry.synQueue.length ≤ listenQueueSize

end NetState

/-- A handle that is in the set afterwards is the one that was taken out of a
queue, it is queued, or it was in the set before and outside the queues. -/
def Accounted (taken : Option SocketHandle) (before after : NetState smol) : Prop :=
  ∀ handle ∈ after.sockets, taken = some handle ∨ after.Queued handle ∨ handle ∈ before.sockets ∧
    ¬ before.Queued handle

structure Tame (before after : NetState smol) : Prop where
  table : after.socketVec = before.socketVec
  counter : portStart.toNat ≤ before.curr.toNat → portStart.toNat ≤ after.curr.toNat
  bounded : before.QueuesBounded → after.QueuesBounded

structure Quiet (before after : NetState smol) : Prop extends Tame before after where
  listeners : ∀ port, after.listener port = before.listener port
  accounted : Accounted none before after

theorem Tame.trans {first second third : NetState smol} (left : Tame first second)
    (right : Tame second third) :
    Tame first third where
  table := right.table.trans left.table
  counter := right.counter ∘ left.counter
  bounded := right.bounded ∘ left.bounded

theorem Accounted.trans {taken : Option SocketHandle} {first second third : NetState smol}
    (left : Accounted none first second) (right : Accounted taken second third) :
    Accounted taken first third := by
  intro handle member
  rcases right handle member with same | queued | ⟨member, outside⟩
  · exact Or.inl same
  · exact Or.inr (Or.inl queued)
  · exact Or.inr (Or.inr (((left handle member).resolve_left nofun).resolve_left outside))

theorem Accounted.of_subset {before after : NetState smol}
    (table : after.listenTable = before.listenTable)
    (fewer : ∀ handle ∈ after.sockets, handle ∈ before.sockets) : Accounted none before after := by
  intro handle member
  by_cases queued : before.Queued handle
  · refine Or.inr (Or.inl ?_)
    unfold NetState.Queued
    rw [table]
    exact queued
  · exact Or.inr (Or.inr ⟨fewer handle member, queued⟩)

theorem Quiet.of_subset {before after : NetState smol} (table : after.socketVec = before.socketVec)
    (listenTable : after.listenTable = before.listenTable)
    (counter : portStart.toNat ≤ before.curr.toNat → portStart.toNat ≤ after.curr.toNat)
    (fewer : ∀ handle ∈ after.sockets, handle ∈ before.sockets) : Quiet before after where
  table := table
  counter := counter
  bounded := by
    unfold NetState.QueuesBounded
    rw [listenTable]
    exact id
  listeners port := by rw [NetState.listener, NetState.listener, listenTable]
  accounted := Accounted.of_subset listenTable fewer

instance : IsPreorder (NetState smol) Quiet where
  refl _ := Quiet.of_subset rfl rfl id fun _ member => member
  trans _ _ _ left right :=
    { left.toTame.trans right.toTame with
      listeners := fun port => (right.listeners port).trans (left.listeners port)
      accounted := left.accounted.trans right.accounted }

section Relations

variable {rel : NetState smol → NetState smol → Prop}

theorem withSocket_evolves (handle : SocketHandle) {f : smol.Socket → NetM smol α}
    (body : ∀ socket, Evolves rel (f socket)) : Evolves rel (SocketSetWrapper.withSocket handle f) := by
  refine .locked (.read_bind fun state => ?_)
  split
  · exact panicWith_triple fun _ _ => trivial
  · exact body _ state

theorem lockSlot_evolves (port : UInt16) {body : Fin portNum → NetM smol α}
    (inner : ∀ slot, Evolves rel (body slot)) :
    Evolves rel (ListenTable.lockSlot port body) := by
  unfold ListenTable.lockSlot
  split
  · exact .locked (inner _)
  · exact .stop

end Relations

def ReadsOnly (program : NetM smol α) : Prop :=
  Evolves (fun before after : NetState smol => after = before) program

theorem ReadsOnly.pure {value : α} : ReadsOnly (Pure.pure value : NetM smol α) :=
  fun _ => .pure fun _ same => same

theorem ReadsOnly.quiet {program : NetM smol α} (reads : ReadsOnly program) : Evolves Quiet program :=
  Evolves.mono reads fun state _ same => same ▸ refl_of Quiet state

theorem withSocketMut_quiet (handle : SocketHandle) {f : smol.Socket → NetM smol (α × smol.Socket)}
    (body : ∀ socket, ReadsOnly (f socket)) :
    Evolves Quiet (SocketSetWrapper.withSocketMut handle f) := by
  refine .locked (.read_bind fun state => ?_)
  cases found : state.sockets[handle]? with
  | none => exact panicWith_triple fun _ _ => trivial
  | some socket =>
    refine (body socket state).bind fun result => .fixed ?_
    rintro _ rfl
    refine .update_bind (.pure ?_)
    rintro _ rfl
    refine Quiet.of_subset rfl rfl id fun key member => ?_
    rcases Std.TreeMap.mem_insert.mp member with same | member
    · rw [← compare_eq_iff_eq.mp same, Std.TreeMap.mem_iff_isSome_getElem?, found]
      rfl
    · exact member

theorem withSocketMut_result (handle : SocketHandle) {f : smol.Socket → NetM smol (α × smol.Socket)}
    {good : α → Prop}
    (body : ∀ socket, Leads (fun _ => True) (f socket) (fun result _ => good result.1))
    {pre : NetState smol → Prop} :
    Leads pre (SocketSetWrapper.withSocketMut handle f) (fun result _ => good result) := by
  refine .locked (.read_bind fun now _ => ?_)
  split
  · exact panicWith_triple fun _ _ => trivial
  · exact .bind ((body _).weaken (fun _ _ => trivial) (fun _ _ holds => holds) fun _ holds => holds)
      fun result => .bind (.update fun _ holds => holds) fun _ => .pure fun _ holds => holds

theorem bindCheck_readsOnly (addr : IpAddress) (port : UInt16) :
    ReadsOnly (SocketSetWrapper.bindCheck addr port : NetM smol _) := by
  refine .locked (.read_bind fun state => ?_)
  split
  · exact .pure fun _ same => same
  · exact .pure fun _ same => same

theorem listener_setEntry (state : NetState smol) (slot : Fin portNum)
    (entry : Option ListenTableEntry) :
    (state.setEntry slot entry).listener =
      Function.update state.listener slot (entry.map (·.listenEndpoint)) := by
  funext port
  by_cases inside : port < portNum
  · by_cases same : port = slot
    · obtain rfl : slot = ⟨port, inside⟩ := Fin.ext same.symm
      rw [update_self, NetState.listener, dif_pos inside, setEntry_listenTable, update_self]
    · have different : (⟨port, inside⟩ : Fin portNum) ≠ slot := fun equal => same (congrArg Fin.val equal)
      rw [update_of_ne same, NetState.listener, NetState.listener, dif_pos inside, dif_pos inside,
        setEntry_listenTable, update_of_ne different]
  · have different : port ≠ slot := by
      rintro rfl
      exact inside slot.isLt
    rw [update_of_ne different, NetState.listener, NetState.listener, dif_neg inside, dif_neg inside]

theorem queued_setEntry {slot : Fin portNum} {entry : Option ListenTableEntry}
    :
    (state.setEntry slot entry).Queued handle ↔ (∃ changed, entry = some changed ∧ handle ∈ changed.synQueue) ∨
      ∃ other entry', other ≠ slot ∧ state.listenTable other = some entry' ∧ handle ∈ entry'.synQueue := by
  constructor
  · rintro ⟨other, entry', listening, member⟩
    by_cases same : other = slot
    · rw [same, setEntry_listenTable, update_self] at listening
      exact Or.inl ⟨entry', listening, member⟩
    · rw [setEntry_listenTable, update_of_ne same] at listening
      exact Or.inr ⟨other, entry', same, listening, member⟩
  · rintro (⟨changed, rfl, member⟩ | ⟨other, entry', different, listening, member⟩)
    · exact ⟨slot, changed, update_self .., member⟩
    · exact ⟨other, entry', (update_of_ne different ..).trans listening, member⟩

theorem bounded_setEntry {slot : Fin portNum} {entry : Option ListenTableEntry}
    (bounded : state.QueuesBounded)
    (short : ∀ changed, entry = some changed → changed.synQueue.length ≤ listenQueueSize) :
    (state.setEntry slot entry).QueuesBounded := by
  intro other entry' listening
  by_cases same : other = slot
  · rw [same, setEntry_listenTable, update_self] at listening
    exact short entry' listening
  · rw [setEntry_listenTable, update_of_ne same] at listening
    exact bounded other entry' listening

theorem listener_setEntry_same {slot : Fin portNum} {entry : ListenTableEntry}
    (listening : state.listenTable slot = some entry) (synQueue : List SocketHandle) (port : Nat) :
    (state.setEntry slot (some { entry with synQueue })).listener port = state.listener port := by
  have here : state.listener slot = some entry.listenEndpoint := by
    rw [NetState.listener, dif_pos slot.isLt, listening]
    rfl
  rw [listener_setEntry, Option.map_some, ← here, Function.update_eq_self]

namespace ListenTable

theorem incomingTcpPacket_quiet (src dst : IpEndpoint) :
    Evolves Quiet (incomingTcpPacket src dst : NetM smol Unit) := by
  refine lockSlot_evolves dst.port fun slot => .read_bind fun state => ?_
  have unchanged : Yields state (pure () : NetM smol Unit)
    fun _ after => Quiet state after := .pure fun _ same => same ▸ refl_of Quiet state
  cases listening : state.listenTable slot with
  | none => exact unchanged
  | some entry =>
    dsimp only
    split
    · exact unchanged
    · split
      · exact unchanged
      · rename_i room
        refine ((SocketSetWrapper.newTcpSocket_spec state).partly fun _ _ made => made.1).bind fun socket => ?_
        split
        · exact unchanged
        · refine .update_bind (.update ?_)
          rintro _ rfl
          refine ⟨⟨rfl, id, fun bounded => bounded_setEntry bounded ?_⟩, listener_setEntry_same listening _, ?_⟩
          · rintro changed ⟨rfl⟩
            rw [List.length_append, List.length_singleton]
            omega
          · intro handle member
            by_cases fresh : handle = smol.freshHandle state.sockets
            · refine Or.inr (Or.inl (queued_setEntry.mpr (Or.inl ⟨_, rfl, ?_⟩)))
              exact List.mem_append_right _ (List.mem_singleton.mpr fresh)
            · have older : handle ∈ state.sockets := (Std.TreeMap.mem_insert.mp member).resolve_left fun same =>
                fresh (compare_eq_iff_eq.mp same).symm
              by_cases queued : state.Queued handle
              · obtain ⟨other, entry', found, waiting⟩ := queued
                refine Or.inr (Or.inl (queued_setEntry.mpr ?_))
                by_cases same : other = slot
                · rw [same, listening] at found
                  cases found
                  exact Or.inl ⟨_, rfl, List.mem_append_left _ waiting⟩
                · exact Or.inr ⟨other, entry', same, found, waiting⟩
              · exact Or.inr (Or.inr ⟨older, queued⟩)

end ListenTable

theorem preprocess_quiet (iface : Interface) (frame : List UInt8) :
    Evolves Quiet (preprocess smol iface frame) := by
  obtain ⟨-, result, same⟩ | ⟨src, dst, -, same⟩ := preprocess_cases smol iface frame
  · rw [same]
    exact .pure
  · rw [same]
    exact .bind (ListenTable.incomingTcpPacket_quiet src dst) fun _ => .pure

theorem pollInterface_quiet (iface : Interface) (frames : List (List UInt8)) :
    Evolves Quiet (pollInterface iface frames : NetM smol Unit) := by
  have mapped : ∀ (state : NetState smol) (f : SocketHandle → smol.Socket → smol.Socket),
      Quiet state { state with sockets := state.sockets.map f } :=
    fun _ _ => Quiet.of_subset rfl rfl id fun _ member => Std.TreeMap.mem_map.mp member
  induction frames with
  | nil => exact .update fun state => mapped state _
  | cons frame rest ih =>
    exact .bind (preprocess_quiet iface frame) fun _ =>
      Evolves.bind (.update fun state => mapped state _) fun _ => ih

theorem pollInterfaces_quiet : Evolves Quiet (SocketSetWrapper.pollInterfaces : NetM smol Unit) := by
  have next : Evolves Quiet (nextBatch : NetM smol Batch) := by
    refine .bind Evolves.read fun state => ?_
    split
    · exact .pure
    · exact .bind (.update fun _ => Quiet.of_subset rfl rfl id fun _ member => member) fun _ => .pure
  exact .bind next fun batch =>
    Evolves.bind (.locked (.locked (.locked (pollInterface_quiet _ _)))) fun _ =>
      Evolves.locked (.locked (.locked (pollInterface_quiet _ _)))

/-- The port that the counter comes to: the first from it on that has a slot and
no listener. -/
structure NetState.Draws (state : NetState smol) (port : UInt16) : Prop where
  above : state.curr.toNat ≤ port.toNat
  inside : port.toNat < portNum
  free : state.listener port.toNat = none
  first : ∀ other : Nat, state.curr.toNat ≤ other → other < port.toNat → state.listener other ≠ none

theorem isNone_listenTable (state : NetState smol) {port : Nat} (inside : port < portNum) :
    (state.listenTable ⟨port, inside⟩).isNone ↔ state.listener port = none := by
  rw [NetState.listener, dif_pos inside]
  cases state.listenTable ⟨port, inside⟩ <;> simp

/-- The tries reach past the last slot of the table, where the lookup panics, so
the search never comes back without a port. -/
theorem ephemeralLoop_draws (tries : Nat) (state : NetState smol) (enough : portNum < state.curr.toNat + tries)
    (within : state.curr.toNat ≤ portNum ∨ 0 < tries) :
    RunFrom state (ephemeralLoop tries)
      (fun result now => ∃ port, result = .ok port ∧ state.Draws port ∧ now = { state with curr := nextPort port })
      (fun _ => ¬ FreePort state) := by
  induction tries generalizing state with
  | zero => omega
  | succ tries ih =>
    refine .read_bind ?_
    rintro state rfl
    refine .update_bind ?_
    by_cases listenable : Listenable state.curr
    · have inside : state.curr.toNat < portNum := listenable
      have next := toNat_nextPort listenable
      refine (canListen_spec listenable _).bind fun free => .fixed ?_
      rintro now ⟨rfl, rfl⟩
      split
      · rename_i free
        refine .pure ?_
        rintro _ rfl
        refine ⟨state.curr, rfl, ⟨Nat.le_refl _, inside, (isNone_listenTable state inside).mp free, ?_⟩, rfl⟩
        intro other above below
        omega
      · rename_i taken
        refine (ih { state with curr := nextPort state.curr } ?_ ?_).weaken (fun _ same => same) ?_ fun _ none free => none ?_
        · change portNum < (nextPort state.curr).toNat + tries
          omega
        · change (nextPort state.curr).toNat ≤ portNum ∨ 0 < tries
          omega
        · rintro result now ⟨port, ok, draws, rfl⟩
          have above : (nextPort state.curr).toNat ≤ port.toNat := draws.above
          refine ⟨port, ok, ⟨by omega, draws.inside, draws.free, fun other start below => ?_⟩, rfl⟩
          by_cases here : other = state.curr.toNat
          · rw [here]
            exact fun free => taken ((isNone_listenTable state inside).mpr free)
          · exact draws.first other (by change (nextPort state.curr).toNat ≤ other; omega) below
        · exact free.next listenable taken
    · have outside : ¬ state.curr.toNat < portNum := listenable
      unfold ListenTable.canListen ListenTable.lockSlot
      rw [dif_neg outside]
      have none : ¬ FreePort state := fun ⟨slot, above, _⟩ => outside (Nat.lt_of_le_of_lt above slot.isLt)
      have stops : RunFrom { state with curr := nextPort state.curr }
          (panicWith (.listenTableIndex state.curr.toNat) : NetM smol Bool) (fun _ _ => False) (fun _ => ¬ FreePort state) :=
        panicWith_triple fun _ _ => none
      exact stops.bind fun _ => .fixed fun _ impossible => impossible.elim

theorem getEphemeralPort_finds (state : NetState smol) :
    RunFrom state getEphemeralPort
      (fun result now => ∃ port, result = .ok port ∧ state.Draws port ∧ now = { state with curr := nextPort port })
      (fun _ => ¬ FreePort state) := by
  have listenable : Listenable 6379 := by decide
  refine .locked ((canListen_spec listenable state).bind fun _ => .fixed ?_)
  rintro state ⟨rfl, -⟩
  refine ephemeralLoop_draws _ state ?_ (Or.inr (by decide))
  have tries : portNum < portEnd.toNat - portStart.toNat + 1 := by decide
  omega

theorem getEphemeralPort_draws (state : NetState smol) :
    Yields state getEphemeralPort
      fun result now => ∃ port, result = .ok port ∧ state.Draws port ∧ now = { state with curr := nextPort port } :=
  (getEphemeralPort_finds state).partly fun _ _ draws => draws

namespace TcpSocket

def endpoint (self : TcpSocket) : IpListenEndpoint :=
  { addr := if isUnspecified self.localAddr.addr then none else some self.localAddr.addr
    port := self.localAddr.port }

theorem boundEndpoint_of_port (nonzero : self.localAddr.port ≠ 0) :
    (self.boundEndpoint : NetM smol _) = pure (.ok self.endpoint) := by
  rw [boundEndpoint, portOrEphemeral, if_neg nonzero, pure_bind]
  simp only [if_neg nonzero]
  rfl

def listensAt (self : TcpSocket) : Option (Nat × IpListenEndpoint) :=
  if self.state = .listening then some (self.localAddr.port.toNat, self.endpoint) else none

theorem listensAt_of_ne (silent : self.state ≠ .listening) : self.listensAt = none := if_neg silent

end TcpSocket

def Quietly (good : α → Prop) (program : NetM smol α) : Prop :=
  ∀ state, MemTriple (Quiet state) program (fun value now => Quiet state now ∧ good value)
    (fun _ => True)

namespace Quietly

variable {β : Type} {good good' : α → Prop} {last : β → Prop} {program : NetM smol α}
  {next : α → NetM smol β}

theorem pure {value : α} (holds : good value) : Quietly good (Pure.pure value : NetM smol α) :=
  fun _ => .pure fun _ quiet => ⟨quiet, holds⟩

theorem panic {reason : Panic} : Quietly good (panicWith reason : NetM smol α) :=
  fun _ => panicWith_triple fun _ _ => trivial

theorem bind (first : Quietly good program) (rest : ∀ value, good value → Quietly last (next value)) :
    Quietly last (program >>= next) :=
  fun state => (first state).bind fun value => .fixed fun _ holds =>
    (rest value holds.2 state).startingAt holds.1

theorem of_evolves (evolves : Evolves Quiet program) : Quietly (fun _ => True) program := by
  intro state
  have kept : Leads (Quiet state) program (fun _ => Quiet state) :=
    evolves.keeps fun _ _ step quiet => trans_of Quiet quiet step
  exact kept.mono fun _ _ quiet => ⟨quiet, trivial⟩

theorem andThen (first : Evolves Quiet program) (rest : ∀ value, Quietly last (next value)) :
    Quietly last (program >>= next) :=
  (of_evolves first).bind fun value _ => rest value

theorem mono (quietly : Quietly good program) (weaker : ∀ value, good value → good' value) :
    Quietly good' program :=
  fun state => (quietly state).mono fun value _ holds => ⟨holds.1, weaker value holds.2⟩

theorem start (quietly : Quietly good program) (state : NetState smol) :
    Yields state program fun value now => Quiet state now ∧ good value :=
  (quietly state).startingAt (refl_of Quiet state)

end Quietly

namespace TcpSocket

structure Follows (before after : TcpSocket) : Prop where
  handle : after.handle = before.handle
  listens : after.listensAt = before.listensAt
  idle : before.state ≠ .busy → after.state ≠ .busy

theorem Follows.refl (self : TcpSocket) : self.Follows self := ⟨rfl, rfl, id⟩

/-- The socket is between two operations and no listener. -/
structure Apart (handle : SocketHandle) (socket : TcpSocket) : Prop where
  handle : socket.handle = some handle
  idle : socket.state ≠ .busy
  silent : socket.state ≠ .listening

theorem Apart.follows {after : TcpSocket} (apart : Apart handle self)
    (apart' : Apart handle after) : self.Follows after where
  handle := apart'.handle.trans apart.handle.symm
  listens := (listensAt_of_ne apart'.silent).trans (listensAt_of_ne apart.silent).symm
  idle _ := apart'.idle

theorem Follows.apart {after : TcpSocket} (follows : self.Follows after)
    (apart : Apart handle self) : Apart handle after where
  handle := follows.handle.trans apart.handle
  idle := follows.idle apart.idle
  silent := by
    intro listening
    have same := follows.listens
    rw [listensAt_of_ne apart.silent, listensAt, if_pos listening] at same
    cases same

theorem updateState_quietly (expect next : SocketState)
    (listening : expect ≠ .listening ∧ next ≠ .listening) (busy : next ≠ .busy)
    (body : Quietly (fun result => result.2.handle = self.handle) (f { self with state := .busy })) :
    Quietly (fun result => self.Follows result.2 ∧ ∀ outcome, result.1 = .ok outcome → self.state = expect)
      (self.updateState expect next f) := by
  refine fun state => updateState_triple (fun expected => ?_) fun _ _ quiet =>
    ⟨quiet, Follows.refl self, nofun⟩
  have silent : self.listensAt = none := listensAt_of_ne fun same =>
    listening.1 (expected.symm.trans same)
  refine (body state).mono ?_
  rintro ⟨outcome, after⟩ now ⟨quiet, same⟩
  cases outcome with
  | ok value =>
    exact ⟨quiet, ⟨same, (listensAt_of_ne listening.2).trans silent.symm, fun _ => busy⟩, fun _ _ => expected⟩
  | error error =>
    exact ⟨quiet, ⟨same, (listensAt_of_ne listening.1).trans silent.symm, fun idle =>
      expected ▸ idle⟩, fun _ _ => expected⟩

theorem blockOn_quietly {shape : TcpSocket → Prop}
    (body : ∀ self, shape self → Quietly (fun result => shape result.2) (f self)) (holds : shape self) :
    Quietly (fun result => shape result.2) (self.blockOn f) := by
  intro state
  have polls : Preserves (Quiet state) (fun _ => True)
    (SocketSetWrapper.pollInterfaces : NetM smol Unit) :=
    pollInterfaces_quiet.keeps fun _ _ step quiet => trans_of Quiet quiet step
  exact blockOn_triple polls (fun self holds => body self holds state) (fun _ _ _ kept => kept)
    trivial holds

theorem getEphemeralPort_quietly :
    Quietly (fun result => ∃ port, result = .ok port) (getEphemeralPort : NetM smol (AxResult UInt16)) := by
  refine fun state => .fixed fun now quiet => (getEphemeralPort_draws now).mono ?_
  rintro result after ⟨port, ok, draws, rfl⟩
  have moved : Quiet now { now with curr := nextPort port } := by
    refine Quiet.of_subset rfl rfl (fun counter => counter_nextPort ?_) fun _ member => member
    exact Nat.le_trans counter draws.above
  exact ⟨trans_of Quiet quiet moved, port, ok⟩

theorem portOrEphemeral_quietly (port : UInt16) :
    Quietly (fun result => ∃ port, result = .ok port) (portOrEphemeral port : NetM smol _) := by
  unfold portOrEphemeral
  split
  · exact getEphemeralPort_quietly
  · exact .pure ⟨port, rfl⟩

theorem boundEndpoint_quietly (self : TcpSocket) :
    Quietly (fun result => ∃ port, result = .ok { self.endpoint with port } ∧ port ≠ 0)
      (self.boundEndpoint : NetM smol _) := by
  refine (portOrEphemeral_quietly _).bind fun chosen ok => ?_
  obtain ⟨port, rfl⟩ := ok
  dsimp only
  split
  · exact .panic
  · rename_i nonzero
    exact .pure ⟨port, rfl, nonzero⟩

theorem onConnected_quietly (self : TcpSocket) (once : smol.Socket → AxResult α × smol.Socket) :
    Quietly (fun result => result.2 = self) (self.onConnected once) := by
  unfold onConnected
  split
  · exact .pure rfl
  · split
    · exact .pure rfl
    · unfold unwrapHandle
      split
      · refine Quietly.andThen Evolves.pure fun handle => blockOn_quietly (fun other (same : other = self) => ?_) rfl
        exact Quietly.andThen (withSocketMut_quiet handle fun _ => ReadsOnly.pure) fun _ => .pure same
      · exact .bind Quietly.panic fun _ (impossible : False) => impossible.elim

section Named

variable {handle : SocketHandle}

theorem connectStart_quietly (remoteAddr : SocketAddr) (named : self.handle = some handle) :
    Quietly (fun result => result.2.handle = self.handle) (connectStart remoteAddr self : NetM smol _) := by
  have connecting : ∀ iface remote bound socket, ReadsOnly (connectSocket iface remote bound socket :
      NetM smol (AxResult (IpEndpoint × IpEndpoint) × smol.Socket)) := by
    intro iface remote bound socket state
    have attempt : ReadsOnly (locked iface.lock (return smol.connect iface remote bound socket) :
        NetM smol (Except ConnectError smol.Socket)) := .locked ReadsOnly.pure
    refine (attempt state).bind fun connected => ?_
    split
    · exact .pure fun _ same => same
    · exact .pure fun _ same => same
    · split
      · exact .pure fun _ same => same
      · exact panicWith_triple fun _ _ => trivial
  unfold connectStart
  rw [handleOrAdd_of_handle named, pure_bind]
  refine (boundEndpoint_quietly self).bind fun bound ok => ?_
  obtain ⟨port, rfl, -⟩ := ok
  refine Quietly.andThen (withSocketMut_quiet handle (connecting _ _ _)) fun result => ?_
  split
  · exact .pure rfl
  · exact .pure named.symm

theorem pollConnect_quietly (apart : Apart handle self) :
    Quietly (fun result => Apart handle result.2) (self.pollConnect : NetM smol _) := by
  unfold pollConnect
  rw [unwrapHandle_of_handle apart.handle, pure_bind]
  refine .bind (fun state => ?_) fun writable holds => .pure holds
  refine .fixed fun now quiet => SocketSetWrapper.withSocket_spec (fun socket _ => ?_) fun _ => trivial
  have done : ∀ {shape : Bool × TcpSocket}, Apart handle shape.2 → Leads (fun now' => now' = now)
      (pure shape : NetM smol _) (fun value now => Quiet state now ∧ Apart handle value.2) :=
    fun holds => .pure fun _ same => ⟨same ▸ quiet, holds⟩
  split
  · exact done apart
  · split
    · exact done ⟨apart.handle, nofun, nofun⟩
    · exact panicWith_triple fun _ _ => trivial
  · exact done ⟨apart.handle, nofun, nofun⟩

theorem connect_quietly (named : self.handle = some handle) (remoteAddr : SocketAddr) :
    Quietly (fun result => self.Follows result.2) (self.connect remoteAddr : NetM smol _) := by
  have polling : ∀ self : TcpSocket, Apart handle self →
      Quietly (fun result => Apart handle result.2) (self.connectPoll : NetM smol _) := by
    intro self apart
    refine (pollConnect_quietly apart).bind fun polled apart => ?_
    split
    · exact .pure apart
    · split
      · exact .pure apart
      · split
        · exact .pure apart
        · exact .pure apart
  have starting : Quietly (fun result => result.2.handle = self.handle)
      (connectStart remoteAddr { self with state := .busy } : NetM smol _) :=
    connectStart_quietly remoteAddr named
  refine (updateState_quietly .closed .connecting ⟨nofun, nofun⟩ nofun starting).bind
    fun started holds => ?_
  obtain ⟨follows, expected⟩ := holds
  split
  · exact .pure follows
  · exact .pure follows
  · rename_i done
    have closed := expected _ done
    have apart : Apart handle self := ⟨named, by rw [closed]; exact nofun, by rw [closed]; exact nofun⟩
    split
    · exact .pure follows
    · exact (blockOn_quietly polling (follows.apart apart)).mono fun result => apart.follows

theorem poll_quietly (named : self.handle = some handle) :
    Quietly (fun result => self.Follows result.2) (self.poll : NetM smol _) := by
  have stream : Evolves Quiet (self.pollStream : NetM smol _) := by
    unfold pollStream
    rw [unwrapHandle_of_handle named, pure_bind]
    exact withSocket_evolves handle fun _ => .pure
  unfold poll
  cases shape : self.state with
  | closed => exact .pure (Follows.refl self)
  | busy => exact .pure (Follows.refl self)
  | connecting =>
    have apart : Apart handle self := ⟨named, by rw [shape]; exact nofun, by rw [shape]; exact nofun⟩
    exact (pollConnect_quietly apart).mono fun result => apart.follows
  | connected => exact Quietly.andThen stream fun _ => .pure (Follows.refl self)
  | listening =>
    have anyConnected : ∀ queue, Evolves Quiet (ListenTable.anyConnected queue : NetM smol Bool) := by
      intro queue
      induction queue with
      | nil => exact .pure
      | cons handle rest ih =>
        refine .bind (withSocket_evolves handle fun _ => .pure) fun connected => ?_
        split
        · exact .pure
        · exact ih
    have ready : Evolves Quiet (ListenTable.canAccept self.localAddr.port : NetM smol _) := by
      refine lockSlot_evolves _ fun slot => .bind Evolves.read fun state => ?_
      split
      · exact .pure
      · exact .bind (anyConnected _) fun _ => .pure
    have listener : Evolves Quiet (self.pollListener : NetM smol _) := by
      refine .bind ready fun ready => ?_
      split
      · exact .pure
      · exact .pure
    exact Quietly.andThen listener fun _ => .pure (Follows.refl self)

theorem checkBind_readsOnly (self : TcpSocket) (endpoint : IpEndpoint) :
    ReadsOnly (self.checkBind endpoint : NetM smol _) := by
  unfold checkBind
  split
  · exact ReadsOnly.pure
  · exact bindCheck_readsOnly _ _

theorem bind_quietly (named : self.handle = some handle) (localAddr : SocketAddr) :
    Quietly (fun result => self.Follows result.2) (self.bind localAddr : NetM smol _) := by
  have starting : Quietly (fun result => result.2.handle = self.handle)
      (bindStart localAddr { self with state := .busy } : NetM smol _) := by
    have chosen : Quietly (fun _ => True) (choosePort localAddr : NetM smol _) := by
      refine (portOrEphemeral_quietly localAddr.port).bind fun chosen ok => ?_
      obtain ⟨port, rfl⟩ := ok
      exact .pure trivial
    refine chosen.bind fun chosen _ => ?_
    split
    · exact .pure rfl
    · rename_i addr
      split
      · exact .pure rfl
      · refine Quietly.andThen (checkBind_readsOnly _ _).quiet fun checked => ?_
        split
        · exact .pure rfl
        · refine (boundEndpoint_quietly _).bind fun bound ok => ?_
          obtain ⟨port, rfl, -⟩ := ok
          have same : { self with state := .busy, localAddr := fromCoreSockaddr addr }.handle = some handle := named
          dsimp only
          rw [handleOrAdd_of_handle same, pure_bind]
          exact Quietly.andThen (withSocketMut_quiet handle fun _ => ReadsOnly.pure) fun _ => .pure rfl
  refine (updateState_quietly .closed .closed ⟨nofun, nofun⟩ nofun starting).bind fun bound holds => ?_
  split
  · exact .pure holds.1
  · exact .pure holds.1

theorem close_quiet (self : TcpSocket) : Evolves Quiet (self.close : NetM smol Unit) := by
  unfold close
  split
  · exact .pure
  · exact .bind (withSocketMut_quiet _ fun _ => ReadsOnly.pure) fun _ => pollInterfaces_quiet

end Named

end TcpSocket

end RootTaskDemo.Net
