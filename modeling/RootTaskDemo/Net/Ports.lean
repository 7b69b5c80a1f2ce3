import RootTaskDemo.Net.Tcp

namespace RootTaskDemo.Net

open Common Lib Thread

variable {smol : Smoltcp} {α : Type} {strict : Prop} {due : Nat} (self : TcpSocket)
  (handle : SocketHandle)
variable {port : UInt16} {state : NetState smol}
  {f : TcpSocket → NetM smol (AxResult α × TcpSocket)}
  {iface : Interface}
variable {good : α × TcpSocket → Prop} {pre : NetState smol → Prop} {program : NetM smol α}
  {frame : List UInt8}

/-! The listen table has a slot for the ports below `portNum` only, while every
sixteen-bit number is a port. What follows says which ports reach the table. -/

def Listenable (port : UInt16) : Prop := port.toNat < portNum

instance : DecidablePred Listenable := fun port => inferInstanceAs (Decidable (port.toNat < portNum))

def FrameInRange (smol : Smoltcp) (iface : Interface) (frame : List UInt8) : Prop :=
  ∀ port ∈ snoopedPort smol iface frame, Listenable port

instance (iface : Interface) : DecidablePred (FrameInRange smol iface) :=
  fun frame => Option.decidableForallMem (snoopedPort smol iface frame)

def FramesInRange (smol : Smoltcp) (iface : Interface) (frames : List (List UInt8)) : Prop :=
  ∀ frame ∈ frames, FrameInRange smol iface frame

instance (iface : Interface) (frames : List (List UInt8)) :
    Decidable (FramesInRange smol iface frames) :=
  inferInstanceAs (Decidable (∀ _ ∈ _, _))

/-- No first segment of a connection among the frames is for a port without a slot. -/
def Batch.InRange (smol : Smoltcp) (batch : Batch) : Prop :=
  FramesInRange smol .loopback batch.loopback ∧ FramesInRange smol .eth0 batch.eth0

instance (batch : Batch) : Decidable (batch.InRange smol) := inferInstanceAs (Decidable (_ ∧ _))

def TcpSocket.InRange (self : TcpSocket) : Prop :=
  self.state = .listening → Listenable self.localAddr.port

def Smoltcp.firstSegments (smol : Smoltcp) (iface : Interface) (frames : List (List UInt8)) : Nat :=
  frames.countP fun frame => (snoopedPort smol iface frame).isSome

/-- How many frames of the batch may make the net thread create a socket. -/
def Batch.firstSegments (smol : Smoltcp) (batch : Batch) : Nat :=
  smol.firstSegments .loopback batch.loopback + smol.firstSegments .eth0 batch.eth0

def NetState.firstSegments (state : NetState smol) : Nat :=
  (state.incoming.map (Batch.firstSegments smol)).sum

/-- What keeps the net thread within its tables. If `strict`, then also within its heap, which
has room for the sockets of the frames to come and for as many as are `due` besides. -/
structure PortsInvariant (strict : Prop) (due : Nat) (state : NetState smol) : Prop where
  frames : ∀ batch ∈ state.incoming, batch.InRange smol
  sockets : ∀ (id : Nat) (socket : TcpSocket), state.socketVec[id]? = some (some socket) → socket.InRange
  counter : portStart.toNat ≤ state.curr.toNat
  room : strict → state.RoomFor (state.firstSegments + due)

structure NotIndex (strict : Prop) (fault : Fault) : Prop where
  index : ∀ port, fault ≠ .panicked (.listenTableIndex port)
  memory : strict → fault ≠ .panicked .outOfMemory

def KeepsPorts (strict : Prop) (program : NetM smol α) : Prop :=
  Preserves (PortsInvariant strict 0) (NotIndex strict) program

theorem notIndex {reason : Panic} (other : ∀ port, reason ≠ .listenTableIndex port)
    (served : reason ≠ .outOfMemory) :
    NotIndex strict (.panicked reason) :=
  ⟨fun port same => other port (Fault.panicked.inj same), fun _ same => served (Fault.panicked.inj same)⟩

theorem PortsInvariant.update {state after : NetState smol} (invariant : PortsInvariant strict due state)
    (incoming : after.incoming = state.incoming) (socketVec : after.socketVec = state.socketVec)
    (curr : after.curr = state.curr) (size : after.sockets.size ≤ state.sockets.size) :
    PortsInvariant strict due after := by
  refine ⟨incoming ▸ invariant.frames, socketVec ▸ invariant.sockets, curr ▸ invariant.counter,
    fun tight => ?_⟩
  rw [NetState.firstSegments, incoming]
  exact Nat.le_trans (invariant.room tight) (Nat.sub_le_sub_left size _)

theorem panicWith_keepsPorts {reason : Panic} (other : ∀ port, reason ≠ .listenTableIndex port)
    (served : reason ≠ .outOfMemory) : KeepsPorts strict (panicWith reason : NetM smol α) :=
  Preserves.stop (notIndex other served)

theorem setSlot_portsInvariant (invariant : PortsInvariant strict 0 state) (id : Nat)
    {slot : Option TcpSocket} (inRange : ∀ socket ∈ slot, socket.InRange) :
    PortsInvariant strict 0 { state with socketVec := state.socketVec.set id slot } := by
  refine ⟨invariant.frames, fun other socket found => ?_, invariant.counter, invariant.room⟩
  rw [List.getElem?_set] at found
  split at found
  · split at found
    · exact inRange socket (Option.some.inj found)
    · cases found
  · exact invariant.sockets other socket found

theorem NetState.RoomFor.insert {count : Nat} (room : state.RoomFor (count + 1))
    (handle : SocketHandle) (socket : smol.Socket) :
    NetState.RoomFor { state with sockets := state.sockets.insert handle socket } count := by
  have size : (state.sockets.insert handle socket).size ≤ state.sockets.size + 1 :=
    Std.TreeMap.size_insert_le
  unfold NetState.RoomFor at room ⊢
  dsimp only
  omega

theorem PortsInvariant.insert (invariant : PortsInvariant strict (due + 1) state)
    (handle : SocketHandle) (socket : smol.Socket) :
    PortsInvariant strict due { state with sockets := state.sockets.insert handle socket } :=
  ⟨invariant.frames, invariant.sockets, invariant.counter, fun tight =>
    (invariant.room tight).insert handle socket⟩

theorem PortsInvariant.spare (invariant : PortsInvariant strict (due + 1) state) :
    PortsInvariant strict due state :=
  ⟨invariant.frames, invariant.sockets, invariant.counter, fun tight =>
    Nat.le_of_succ_le (invariant.room tight)⟩

theorem newTcpSocket_spec (invariant : PortsInvariant strict (due + 1) state) :
    RunFrom state SocketSetWrapper.newTcpSocket (fun _ now => now = state) (NotIndex strict) := by
  refine (SocketSetWrapper.newTcpSocket_spec state).weaken (fun _ same => same)
    (fun _ _ made => made.1) ?_
  rintro _ ⟨rfl, full⟩
  refine ⟨nofun, fun tight => absurd (invariant.room tight) fun room => full ?_⟩
  exact Nat.le_trans (Nat.succ_le_succ (Nat.zero_le _)) room

theorem withSocket_triple {f : smol.Socket → NetM smol α}
    {post : α → NetState smol → Prop}
    (body : ∀ socket, MemTriple pre (f socket) post (NotIndex strict)) :
    MemTriple pre (SocketSetWrapper.withSocket handle f) post (NotIndex strict) := by
  refine .locked (.read_bind fun state holds => ?_)
  split
  · exact panicWith_triple fun _ _ => notIndex nofun nofun
  · refine (body _).weaken ?_ (fun _ _ kept => kept) fun _ other => other
    rintro _ rfl
    exact holds

theorem withSocket_keepsPorts {f : smol.Socket → NetM smol α}
    (body : ∀ socket, KeepsPorts strict (f socket)) :
    KeepsPorts strict (SocketSetWrapper.withSocket handle f) :=
  withSocket_triple handle body

theorem withSocketMut_keepsPorts {f : smol.Socket → NetM smol (α × smol.Socket)}
    (body : ∀ socket invariant, Preserves invariant (NotIndex strict) (f socket)) :
    KeepsPorts strict (SocketSetWrapper.withSocketMut handle f) := by
  refine MemTriple.locked (.read_bind fun state invariant => ?_)
  cases found : state.sockets[handle]? with
  | none => exact panicWith_triple fun _ _ => notIndex nofun nofun
  | some socket =>
    refine (body socket (fun now => now = state)).followedBy fun result => .update_bind (.pure ?_)
    rintro _ rfl
    refine invariant.update rfl rfl rfl (Nat.le_of_eq ?_)
    have live : state.sockets.contains handle = true := by
      rw [Std.TreeMap.contains_iff_mem, Std.TreeMap.mem_iff_isSome_getElem?, found]
      rfl
    change (state.sockets.insert handle result.2).size = _
    rw [Std.TreeMap.size_insert, if_pos live]

theorem bindCheck_keepsPorts (addr : IpAddress) (port : UInt16) :
    KeepsPorts strict (SocketSetWrapper.bindCheck addr port : NetM smol _) := by
  refine .locked (.read_bind fun state _ => ?_)
  split
  · exact .pure
  · exact .pure

theorem remove_keepsPorts :
    KeepsPorts strict (SocketSetWrapper.remove handle : NetM smol Unit) := by
  refine .locked (.read_bind fun state _ => ?_)
  split
  · exact panicWith_keepsPorts (fun _ => Panic.noConfusion) Panic.noConfusion
  · exact .update fun state invariant => invariant.update rfl rfl rfl Std.TreeMap.size_erase_le

theorem isConnected_keepsPorts : KeepsPorts strict (isConnected handle : NetM smol Bool) :=
  withSocket_keepsPorts handle fun _ => .pure

theorem isClosed_keepsPorts : KeepsPorts strict (isClosed handle : NetM smol Bool) :=
  withSocket_keepsPorts handle fun _ => .pure

theorem getAddrTuple_keepsPorts :
    KeepsPorts strict (getAddrTuple handle : NetM smol _) := by
  refine withSocket_keepsPorts handle fun socket => ?_
  split
  · exact .pure
  · exact panicWith_keepsPorts (fun _ => Panic.noConfusion) Panic.noConfusion

theorem dropEntry_keepsPorts (entry : Option ListenTableEntry) :
    KeepsPorts strict (dropEntry entry : NetM smol Unit) := by
  have queue : ∀ queue : List SocketHandle,
      KeepsPorts strict (ListenTableEntry.dropQueue queue : NetM smol Unit) := by
    intro queue
    induction queue with
    | nil => exact .pure
    | cons handle rest ih => exact .bind (remove_keepsPorts handle) fun _ => ih
  cases entry with
  | none => exact .pure
  | some entry => exact queue entry.synQueue

theorem lockSlot_keepsPorts (listenable : Listenable port) {body : Fin portNum → NetM smol α}
    (inner : ∀ slot, KeepsPorts strict (body slot)) :
    KeepsPorts strict (ListenTable.lockSlot port body) := by
  have inside : port.toNat < portNum := listenable
  unfold ListenTable.lockSlot
  rw [dif_pos inside]
  exact .locked (inner _)

theorem setEntry_keepsPorts (slot : Fin portNum) (entry : Option ListenTableEntry) :
    KeepsPorts strict (update fun state : NetState smol => state.setEntry slot entry) :=
  .update fun _ invariant => invariant.update rfl rfl rfl (Nat.le_refl _)

namespace ListenTable

theorem listen_keepsPorts {listenEndpoint : IpListenEndpoint}
    (listenable : Listenable listenEndpoint.port) :
    KeepsPorts strict (listen listenEndpoint : NetM smol _) := by
  unfold listen
  split
  · exact panicWith_keepsPorts (fun _ => Panic.noConfusion) Panic.noConfusion
  · refine lockSlot_keepsPorts listenable fun slot => .read_bind fun state _ => ?_
    split
    · exact .bind (setEntry_keepsPorts _ _) fun _ => .pure
    · exact .pure

theorem unlisten_keepsPorts (listenable : Listenable port) :
    KeepsPorts strict (unlisten port : NetM smol Unit) :=
  lockSlot_keepsPorts listenable fun _ => .read_bind fun _ _ =>
    Preserves.bind (dropEntry_keepsPorts _) fun _ => setEntry_keepsPorts _ _

theorem canAccept_keepsPorts (listenable : Listenable port) :
    KeepsPorts strict (canAccept port : NetM smol _) := by
  have anyConnected : ∀ queue : List SocketHandle, KeepsPorts strict (anyConnected queue : NetM smol Bool) := by
    intro queue
    induction queue with
    | nil => exact .pure
    | cons handle rest ih =>
      refine .bind (isConnected_keepsPorts handle) fun connected => ?_
      split
      · exact .pure
      · exact ih
  refine lockSlot_keepsPorts listenable fun slot => .read_bind fun state _ => ?_
  split
  · exact .pure
  · exact .bind (anyConnected _) fun _ => .pure

theorem findConnected_keepsPorts (queue : List SocketHandle) :
    KeepsPorts strict (findConnected queue : NetM smol _) := by
  induction queue with
  | nil => exact .pure
  | cons handle rest ih =>
    refine .bind (isConnected_keepsPorts handle) fun connected => ?_
    split
    · exact .pure
    · exact .bind ih fun _ => .pure

theorem accept_keepsPorts (listenable : Listenable port) :
    KeepsPorts strict (accept port : NetM smol _) := by
  refine lockSlot_keepsPorts listenable fun slot => .read_bind fun state _ => ?_
  split
  · exact .pure
  · refine .bind (findConnected_keepsPorts _) fun found => ?_
    split
    · exact .pure
    · split
      · exact panicWith_keepsPorts (fun _ => Panic.noConfusion) Panic.noConfusion
      · refine .bind (setEntry_keepsPorts _ _) fun _ =>
          Preserves.bind (isClosed_keepsPorts _) fun closed => ?_
        split
        · exact .pure
        · exact .bind (getAddrTuple_keepsPorts _) fun _ => .pure

theorem incomingTcpPacket_spec (src : IpEndpoint) {dst : IpEndpoint} (listenable : Listenable dst.port) :
    MemTriple (PortsInvariant strict (due + 1)) (incomingTcpPacket src dst : NetM smol Unit)
      (fun _ => PortsInvariant strict due) (NotIndex strict) := by
  have inside : dst.port.toNat < portNum := listenable
  unfold incomingTcpPacket lockSlot
  rw [dif_pos inside]
  refine .locked (.read_bind fun state invariant => ?_)
  have unchanged : RunFrom state (pure () : NetM smol Unit) (fun _ => PortsInvariant strict due)
    (NotIndex strict) :=
    .pure fun _ same => same ▸ invariant.spare
  split
  · exact unchanged
  · split
    · exact unchanged
    · split
      · exact unchanged
      · refine (newTcpSocket_spec invariant).bind fun socket => ?_
        split
        · exact unchanged
        · refine .update_bind (.update ?_)
          rintro _ rfl
          exact (invariant.insert _ _).update rfl rfl rfl (Nat.le_refl _)

end ListenTable

theorem preprocess_spec (inRange : FrameInRange smol iface frame) :
    MemTriple (PortsInvariant strict (due + if (snoopedPort smol iface frame).isSome then 1 else 0))
      (preprocess smol iface frame) (fun _ => PortsInvariant strict due) (NotIndex strict) := by
  obtain ⟨ignored, result, same⟩ | ⟨src, dst, snooped, same⟩ := preprocess_cases smol iface frame
  · rw [same, ignored]
    exact .pure fun _ invariant => invariant
  · rw [same, snooped]
    exact .bind (ListenTable.incomingTcpPacket_spec src (inRange _ snooped)) fun _ =>
      .pure fun _ invariant => invariant

theorem pollInterface_spec {frames : List (List UInt8)} (inRange : FramesInRange smol iface frames) :
    MemTriple (PortsInvariant strict (due + smol.firstSegments iface frames))
      (pollInterface iface frames : NetM smol Unit)
      (fun _ => PortsInvariant strict due) (NotIndex strict) := by
  induction frames with
  | nil => exact .update fun _ invariant => invariant.update rfl rfl rfl (Nat.le_of_eq Std.TreeMap.size_map)
  | cons frame rest ih =>
    rw [Smoltcp.firstSegments, List.countP_cons, ← Nat.add_assoc]
    refine .bind (preprocess_spec (inRange frame (List.mem_cons_self ..))) fun _ =>
      .bind (.update fun _ invariant => ?_) fun _ => ih fun frame member => inRange frame (List.mem_cons_of_mem _ member)
    exact invariant.update rfl rfl rfl (Nat.le_of_eq Std.TreeMap.size_map)

theorem nextBatch_spec : MemTriple (PortsInvariant strict 0) (nextBatch : NetM smol Batch)
    (fun batch state => PortsInvariant strict (batch.firstSegments smol) state ∧ batch.InRange smol)
      (NotIndex strict) := by
  refine .read_bind fun state invariant => ?_
  cases arriving : state.incoming with
  | nil =>
    refine .pure ?_
    rintro _ rfl
    exact ⟨invariant, nofun, nofun⟩
  | cons batch rest =>
    refine .update_bind (.pure ?_)
    rintro _ rfl
    have frames := invariant.frames
    rw [arriving] at frames
    refine ⟨⟨fun other member => frames other (List.mem_cons_of_mem _ member), invariant.sockets,
      invariant.counter, fun tight => ?_⟩, frames batch (List.mem_cons_self ..)⟩
    have room := invariant.room tight
    rw [NetState.firstSegments, arriving, List.map_cons, List.sum_cons, Nat.add_zero, Nat.add_comm] at room
    exact room

theorem pollInterfaces_keepsPorts : KeepsPorts strict
    (SocketSetWrapper.pollInterfaces : NetM smol Unit) := by
  refine nextBatch_spec.bind fun batch => .fixed ?_
  rintro state ⟨invariant, loopback, eth0⟩
  rw [Batch.firstSegments, Nat.add_comm, ← Nat.zero_add (smol.firstSegments .eth0 _)] at invariant
  refine .bind ((MemTriple.locked (.locked (.locked (pollInterface_spec loopback)))).startingAt
    invariant) fun _ => ?_
  exact .locked (.locked (.locked (pollInterface_spec eth0)))

/-- A port from the counter on that has a slot and no listener. The counter only
ever turns around past the last port, so the ports below it are out of reach. -/
def FreePort (state : NetState smol) : Prop :=
  ∃ slot : Fin portNum, state.curr.toNat ≤ slot ∧ state.listenTable slot = none

instance (state : NetState smol) : Decidable (FreePort state) :=
  if next : ∃ inside : state.curr.toNat < portNum, state.listenTable ⟨state.curr.toNat, inside⟩ =
    none then
    isTrue (next.elim fun inside free => ⟨⟨state.curr.toNat, inside⟩, Nat.le_refl _, free⟩)
  else inferInstanceAs (Decidable (∃ slot : Fin portNum, state.curr.toNat ≤ slot ∧
    state.listenTable slot = none))

theorem canListen_spec {raised : Fault → Prop} (listenable : Listenable port) (state : NetState smol) :
    RunFrom state (ListenTable.canListen port)
      (fun free now => now = state ∧ free = (state.listenTable ⟨port.toNat, listenable⟩).isNone) raised := by
  have inside : port.toNat < portNum := listenable
  unfold ListenTable.canListen ListenTable.lockSlot
  rw [dif_pos inside]
  refine .locked (.read_bind ?_)
  rintro state rfl
  exact .pure fun _ same => ⟨same, rfl⟩

theorem toNat_nextPort (listenable : Listenable port) :
    (nextPort port).toNat = port.toNat + 1 := by
  have small : port.toNat < 0x2000 := listenable
  have different : port ≠ portEnd := by
    rintro rfl
    exact absurd small (by decide)
  rw [nextPort, if_neg different, UInt16.toNat_add]
  exact Nat.mod_eq_of_lt (by
    simp only [UInt16.reduceToNat]
    omega)

theorem FreePort.next (free : FreePort state) (listenable : Listenable state.curr)
    (taken : ¬ (state.listenTable ⟨state.curr.toNat, listenable⟩).isNone = true) :
    FreePort { state with curr := nextPort state.curr } := by
  obtain ⟨slot, above, free⟩ := free
  refine ⟨slot, ?_, free⟩
  rw [toNat_nextPort listenable]
  have different : state.curr.toNat ≠ slot := by
    intro same
    apply taken
    have here : (⟨state.curr.toNat, listenable⟩ : Fin portNum) = slot := Fin.ext same
    rw [here, free]
    rfl
  omega

/-- Where `available` holds, the program keeps the ports and has a good result. -/
abbrev KeepsWhere (strict : Prop) (available : NetState smol → Prop) (program : NetM smol α)
    (good : α → Prop) : Prop :=
  MemTriple (fun state => PortsInvariant strict 0 state ∧ available state) program
    (fun result state => PortsInvariant strict 0 state ∧ good result) (NotIndex strict)

theorem ephemeralLoop_spec (tries : Nat) :
    KeepsWhere strict FreePort (ephemeralLoop tries : NetM smol _)
      fun result => ∀ port, result = .ok port → Listenable port ∧ port ≠ 0 := by
  induction tries with
  | zero => exact .pure fun _ holds => ⟨holds.1, nofun⟩
  | succ tries ih =>
    refine .read_bind ?_
    rintro state ⟨invariant, freePort⟩
    have listenable : Listenable state.curr := freePort.elim fun slot free => Nat.lt_of_le_of_lt free.1 slot.isLt
    have counter := invariant.counter
    have next := toNat_nextPort listenable
    refine .update_bind ((canListen_spec listenable _).bind fun isFree => .fixed ?_)
    rintro now ⟨rfl, rfl⟩
    have kept : PortsInvariant strict 0 { state with curr := nextPort state.curr } :=
      ⟨invariant.frames, invariant.sockets, by rw [next]; omega, invariant.room⟩
    split
    · refine .pure ?_
      rintro _ rfl
      refine ⟨kept, fun port ok => ?_⟩
      cases ok
      refine ⟨listenable, ?_⟩
      intro zero
      rw [zero] at counter
      exact absurd counter (by decide)
    · rename_i taken
      refine ih.weaken ?_ (fun _ _ kept => kept) fun _ other => other
      rintro _ rfl
      exact ⟨kept, freePort.next listenable taken⟩

theorem getEphemeralPort_spec :
    KeepsWhere strict FreePort (getEphemeralPort : NetM smol _)
      fun result => ∀ port, result = .ok port → Listenable port ∧ port ≠ 0 := by
  refine .locked (.fixed fun state holds => ?_)
  have listenable : Listenable 6379 := by decide
  refine (canListen_spec listenable state).bind fun _ => ?_
  refine (ephemeralLoop_spec _).weaken ?_ (fun _ _ kept => kept) fun _ other => other
  rintro _ ⟨rfl, _⟩
  exact holds

def KeepsSocket (strict : Prop) (good : α × TcpSocket → Prop) (program : NetM smol (α × TcpSocket)) : Prop :=
  MemTriple (PortsInvariant strict 0) program (fun result state => PortsInvariant strict 0 state ∧
    good result) (NotIndex strict)

def InRangeAfter (result : α × TcpSocket) : Prop := result.2.InRange

theorem KeepsPorts.from (keeps : KeepsPorts strict program)
    (invariant : PortsInvariant strict 0 state) :
    RunFrom state program (fun _ => PortsInvariant strict 0) (NotIndex strict) := by
  refine MemTriple.weaken keeps ?_ (fun _ _ kept => kept) fun _ other => other
  rintro _ rfl
  exact invariant

theorem KeepsSocket.from {program : NetM smol (α × TcpSocket)}
    (keeps : KeepsSocket strict good program) (invariant : PortsInvariant strict 0 state) :
    RunFrom state program (fun result state => PortsInvariant strict 0 state ∧ good result)
      (NotIndex strict) := by
  refine MemTriple.weaken keeps ?_ (fun _ _ kept => kept) fun _ other => other
  rintro _ rfl
  exact invariant

theorem KeepsSocket.of_pure {result : α × TcpSocket} (holds : good result) :
    KeepsSocket strict good (pure result : NetM smol _) :=
  MemTriple.pure fun _ invariant => ⟨invariant, holds⟩

theorem KeepsPorts.unchanged (keeps : KeepsPorts strict program) {self : TcpSocket}
    (inRange : self.InRange) :
    KeepsSocket strict InRangeAfter (do
      let result ← program
      return (result, self)) :=
  MemTriple.bind keeps fun _ => KeepsSocket.of_pure inRange

def PortAvailable (port : UInt16) (state : NetState smol) : Prop := port = 0 → FreePort state

instance (port : UInt16) (state : NetState smol) : Decidable (PortAvailable port state) :=
  inferInstanceAs (Decidable (_ → _))

namespace TcpSocket

theorem new_spec : MemTriple (PortsInvariant strict 1) (TcpSocket.new : NetM smol _)
    (fun socket state => PortsInvariant strict 0 state ∧ socket.InRange) (NotIndex strict) := by
  refine .fixed fun state invariant => (newTcpSocket_spec invariant).bind fun socket =>
    .bind ?_ fun handle =>
    MemTriple.pure fun now (kept : PortsInvariant strict 0 now) => ⟨kept, nofun⟩
  refine .locked (.read_bind ?_)
  rintro _ rfl
  refine .update_bind (.pure ?_)
  rintro _ rfl
  exact invariant.insert _ _

theorem portOrEphemeral_spec (port : UInt16) :
    KeepsWhere strict (PortAvailable port) (portOrEphemeral port : NetM smol _) fun result =>
      ∀ chosen, result = .ok chosen → chosen ≠ 0 ∧ if port = 0 then Listenable chosen else chosen = port := by
  unfold portOrEphemeral
  split
  · rename_i zero
    refine getEphemeralPort_spec.weaken (fun state holds => ⟨holds.1, holds.2 zero⟩) ?_ fun _ other => other
    rintro result state ⟨invariant, range⟩
    exact ⟨invariant, fun chosen ok => ⟨(range chosen ok).2, (range chosen ok).1⟩⟩
  · rename_i nonzero
    refine .pure fun state holds => ⟨holds.1, ?_⟩
    rintro chosen ⟨rfl⟩
    exact ⟨nonzero, rfl⟩

theorem boundEndpoint_spec :
    KeepsWhere strict (PortAvailable self.localAddr.port) (self.boundEndpoint : NetM smol _) fun result =>
      ∀ bound, result = .ok bound →
        if self.localAddr.port = 0 then Listenable bound.port else bound.port = self.localAddr.port := by
  refine (portOrEphemeral_spec _).bind fun chosen => ?_
  cases chosen with
  | error error => exact .pure fun _ holds => ⟨holds.1, nofun⟩
  | ok port =>
    dsimp only
    by_cases zero : port = 0
    · rw [if_pos zero]
      exact panicWith_triple fun _ _ => notIndex nofun nofun
    · rw [if_neg zero]
      refine .pure fun state holds => ⟨holds.1, ?_⟩
      rintro bound ⟨rfl⟩
      exact (holds.2 port rfl).2

theorem handleOrAdd_keepsPorts {self : TcpSocket} (named : strict → self.handle.isSome = true) :
    Preserves (fun state : NetState smol => PortsInvariant strict 0 state ∧
      PortAvailable port state) (NotIndex strict)
      self.handleOrAdd := by
  unfold handleOrAdd
  split
  · exact .pure
  · rename_i unnamed
    have loose : ¬ strict := fun tight => by
      have named := named tight
      rw [unnamed] at named
      cases named
    refine .fixed fun state holds => ?_
    have invariant : PortsInvariant strict 1 state :=
      ⟨holds.1.frames, holds.1.sockets, holds.1.counter, fun tight => absurd tight loose⟩
    refine (newTcpSocket_spec invariant).bind fun socket => .locked (.read_bind ?_)
    rintro _ rfl
    refine .update_bind (.pure ?_)
    rintro _ rfl
    exact ⟨invariant.insert _ _, holds.2⟩

theorem unwrapHandle_keepsPorts : KeepsPorts strict (self.unwrapHandle : NetM smol _) := by
  unfold unwrapHandle
  split
  · exact .pure
  · exact panicWith_keepsPorts (fun _ => Panic.noConfusion) Panic.noConfusion

theorem updateState_spec (inRange : self.InRange) (expect next : SocketState)
    (entry : ∀ state, pre state → PortsInvariant strict 0 state)
    (body : self.state = expect → MemTriple pre (f { self with state := .busy })
      (fun result state => PortsInvariant strict 0 state ∧
        (expect = .listening ∨ next = .listening → Listenable result.2.localAddr.port)) (NotIndex strict)) :
    MemTriple pre (self.updateState expect next f)
      (fun result state => PortsInvariant strict 0 state ∧ result.2.InRange) (NotIndex strict) := by
  refine updateState_triple (fun expected => (body expected).mono ?_)
    fun _ state holds => ⟨entry state holds, inRange⟩
  rintro ⟨outcome, after⟩ state ⟨invariant, range⟩
  cases outcome with
  | ok value => exact ⟨invariant, fun listening => range (Or.inr listening)⟩
  | error error => exact ⟨invariant, fun listening => range (Or.inl listening)⟩

theorem blockOn_keepsPorts {shape : TcpSocket → Prop} {good : AxResult α × TcpSocket → Prop}
    (body : ∀ self, shape self → KeepsSocket strict good (f self))
    (carries : ∀ result, good result → shape result.2) (holds : shape self) :
    KeepsSocket strict good (self.blockOn f) :=
  blockOn_triple pollInterfaces_keepsPorts body (fun result _ _ kept => ⟨kept.1, carries result kept.2⟩)
    ⟨nofun, nofun⟩ holds

theorem connectStart_spec (remoteAddr : SocketAddr) (self : TcpSocket)
    (named : strict → self.handle.isSome = true) :
    MemTriple (fun state : NetState smol => PortsInvariant strict 0 state ∧
      PortAvailable self.localAddr.port state)
      (connectStart remoteAddr self) (fun _ state => PortsInvariant strict 0 state) (NotIndex strict) := by
  have connecting : ∀ iface remote bound socket invariant, Preserves invariant (NotIndex strict)
      (connectSocket iface remote bound socket : NetM smol _) := by
    intro iface remote bound socket invariant
    refine .bind (.locked Preserves.pure) fun connected => ?_
    split
    · exact .pure
    · exact .pure
    · split
      · exact .pure
      · exact .stop (notIndex nofun nofun)
  refine .bind (handleOrAdd_keepsPorts named) fun handle =>
    (boundEndpoint_spec self).bind fun bound => ?_
  refine .fixed fun state holds => ?_
  split
  · refine .pure ?_
    rintro _ rfl
    exact holds.1
  · refine .bind ((withSocketMut_keepsPorts handle (connecting _ _ _)).from holds.1) fun result => ?_
    split
    · exact .pure fun _ kept => kept
    · exact .pure fun _ kept => kept

theorem pollConnect_keepsPorts (inRange : self.InRange) :
    KeepsSocket strict InRangeAfter (self.pollConnect : NetM smol _) := by
  refine .bind (unwrapHandle_keepsPorts self) fun handle => .bind ?_
    fun writable => .pure fun _ kept => kept
  refine withSocket_triple handle fun socket => ?_
  split
  · exact .pure fun _ invariant => ⟨invariant, inRange⟩
  · split
    · exact .pure fun _ invariant => ⟨invariant, nofun⟩
    · exact panicWith_triple fun _ _ => notIndex nofun nofun
  · exact .pure fun _ invariant => ⟨invariant, nofun⟩

theorem connectPoll_keepsPorts (inRange : self.InRange) :
    KeepsSocket strict InRangeAfter (self.connectPoll : NetM smol _) := by
  refine .bind (pollConnect_keepsPorts self inRange) fun polled => ?_
  split
  · exact .pure fun _ kept => kept
  · split
    · exact .pure fun _ kept => kept
    · split
      · exact .pure fun _ kept => kept
      · exact .pure fun _ kept => kept

theorem connect_spec (inRange : self.InRange) (named : strict → self.handle.isSome = true)
    (remoteAddr : SocketAddr) :
    KeepsWhere strict (fun state : NetState smol => self.state = .closed →
      PortAvailable self.localAddr.port state)
      (self.connect remoteAddr) InRangeAfter := by
  refine .bind (updateState_spec self inRange .closed .connecting (fun _ holds => holds.1)
    fun closed => ?_)
    fun started => .fixed fun state kept => ?_
  · refine (connectStart_spec remoteAddr { self with state := .busy } named).weaken
      (fun state holds => ⟨holds.1, holds.2 closed⟩) (fun _ _ kept => ⟨kept, ?_⟩) fun _ other => other
    rintro (impossible | impossible) <;> cases impossible
  · split
    · exact (KeepsSocket.of_pure kept.2).from kept.1
    · exact (KeepsSocket.of_pure kept.2).from kept.1
    · split
      · exact (KeepsSocket.of_pure kept.2).from kept.1
      · exact (blockOn_keepsPorts _ connectPoll_keepsPorts (fun _ inRange => inRange) kept.2).from kept.1

theorem bindStart_spec (localAddr : SocketAddr) (self : TcpSocket)
    (named : strict → self.handle.isSome = true) :
    MemTriple (fun state : NetState smol => PortsInvariant strict 0 state ∧ PortAvailable localAddr.port state)
      (bindStart localAddr self) (fun _ state => PortsInvariant strict 0 state) (NotIndex strict) := by
  have chosen : KeepsWhere strict (PortAvailable localAddr.port) (choosePort localAddr : NetM smol _)
      fun result => ∀ chosen, result = .ok chosen → chosen.port ≠ 0 := by
    refine (portOrEphemeral_spec _).bind fun chosen => ?_
    cases chosen with
    | error error => exact .pure fun _ holds => ⟨holds.1, nofun⟩
    | ok port =>
      refine .pure fun _ holds => ⟨holds.1, ?_⟩
      rintro addr ⟨rfl⟩
      exact (holds.2 port rfl).1
  have checked : ∀ (self : TcpSocket) endpoint, KeepsPorts strict (self.checkBind endpoint : NetM smol _) := by
    intro self endpoint
    unfold checkBind
    split
    · exact .pure
    · exact bindCheck_keepsPorts _ _
  refine chosen.bind fun chosen => .fixed fun state holds => ?_
  cases chosen with
  | error error => exact KeepsPorts.from Preserves.pure holds.1
  | ok addr =>
    have nonzero := holds.2 addr rfl
    dsimp only
    split
    · exact KeepsPorts.from Preserves.pure holds.1
    · refine KeepsPorts.from (.bind (checked _ _) fun checked => ?_) holds.1
      split
      · exact .pure
      · -- the port is not zero any more, so no second one is chosen
        have available : ∀ state : NetState smol, PortAvailable (fromCoreSockaddr addr).port state :=
          fun _ zero => absurd zero nonzero
        refine .bind ((boundEndpoint_spec _).weaken (fun state invariant => ⟨invariant, available state⟩)
          (fun _ _ kept => kept.1) fun _ other => other) fun bound => ?_
        split
        · exact .pure
        · refine .bind ((handleOrAdd_keepsPorts named).weaken (fun state invariant => ⟨invariant, available state⟩)
            (fun _ _ kept => kept.1) fun _ other => other) fun handle => ?_
          exact Preserves.bind (withSocketMut_keepsPorts handle fun _ _ => .pure) fun _ => .pure

theorem bind_spec (inRange : self.InRange) (named : strict → self.handle.isSome = true)
    (localAddr : SocketAddr) :
    KeepsWhere strict (fun state : NetState smol => self.state = .closed → PortAvailable localAddr.port state)
      (self.bind localAddr) InRangeAfter := by
  refine .bind (updateState_spec self inRange .closed .closed (fun _ holds => holds.1) fun closed => ?_)
    fun bound => ?_
  · refine (bindStart_spec localAddr { self with state := .busy } named).weaken
      (fun state holds => ⟨holds.1, holds.2 closed⟩) (fun _ _ kept => ⟨kept, ?_⟩) fun _ other => other
    rintro (impossible | impossible) <;> cases impossible
  · split
    · exact .pure fun _ kept => kept
    · exact .pure fun _ kept => kept

def ListenAvailable (self : TcpSocket) (state : NetState smol) : Prop :=
  if self.localAddr.port = 0 then FreePort state else Listenable self.localAddr.port

instance (self : TcpSocket) (state : NetState smol) : Decidable (self.ListenAvailable state) :=
  inferInstanceAs (Decidable (if self.localAddr.port = 0 then FreePort state
    else Listenable self.localAddr.port))

theorem listenStart_spec :
    KeepsWhere strict self.ListenAvailable (self.listenStart : NetM smol _)
      fun result => Listenable result.2.localAddr.port := by
  refine .fixed fun state holds => ?_
  have bounding : RunFrom state self.boundEndpoint
      (fun result now => PortsInvariant strict 0 now ∧ Listenable self.localAddr.port ∧
        ∀ bound, result = .ok bound → Listenable bound.port) (NotIndex strict) := by
    refine (boundEndpoint_spec self).weaken ?_ ?_ fun _ other => other
    · rintro _ rfl
      refine ⟨holds.1, fun zero => ?_⟩
      have available := holds.2
      rwa [ListenAvailable, if_pos zero] at available
    · rintro result now ⟨invariant, range⟩
      have available := holds.2
      unfold ListenAvailable at available
      by_cases zero : self.localAddr.port = 0
      · simp only [if_pos zero] at range
        refine ⟨invariant, ?_, range⟩
        rw [zero]
        decide
      · simp only [if_neg zero] at range available
        refine ⟨invariant, available, fun bound ok => ?_⟩
        rw [range bound ok]
        exact available
  refine bounding.bind fun bound => .fixed fun now kept => ?_
  cases bound with
  | error error =>
    refine .pure ?_
    rintro _ rfl
    exact ⟨kept.1, kept.2.1⟩
  | ok bound =>
    have listenable := kept.2.2 bound rfl
    exact .bind ((ListenTable.listen_keepsPorts listenable).from kept.1) fun result =>
      MemTriple.pure fun _ invariant => ⟨invariant, listenable⟩

theorem listen_spec (inRange : self.InRange) :
    KeepsWhere strict (fun state : NetState smol => self.state = .closed →
      self.ListenAvailable state) self.listen
      InRangeAfter := by
  refine .bind (updateState_spec self inRange .closed .listening (fun _ holds => holds.1)
    fun closed => ?_)
    fun started => ?_
  · exact (listenStart_spec { self with state := .busy }).weaken (fun state holds => ⟨holds.1, holds.2 closed⟩)
      (fun _ _ kept => ⟨kept.1, fun _ => kept.2⟩) fun _ other => other
  · split
    · exact .pure fun _ kept => kept
    · exact .pure fun _ kept => kept

theorem accept_keepsPorts (inRange : self.InRange) :
    KeepsSocket strict (fun result => result.2.InRange ∧ ∀ accepted, result.1 = .ok accepted → accepted.InRange)
      (self.accept : NetM smol _) := by
  unfold accept
  split
  · exact KeepsSocket.of_pure ⟨inRange, nofun⟩
  · rename_i listening
    simp only [ne_eq, Decidable.not_not] at listening
    have once : ∀ other, other = self →
        KeepsSocket strict (fun result => result.2 = self ∧ ∀ accepted, result.1 = .ok accepted → accepted.InRange)
          (other.acceptOnce : NetM smol _) := by
      rintro other rfl
      refine MemTriple.bind (ListenTable.accept_keepsPorts (inRange listening)) fun accepted => ?_
      split
      · exact KeepsSocket.of_pure ⟨rfl, nofun⟩
      · refine KeepsSocket.of_pure ⟨rfl, ?_⟩
        rintro accepted ⟨rfl⟩
        exact nofun
    refine MemTriple.weaken (blockOn_keepsPorts self once (fun _ good => good.1) rfl)
      (fun _ invariant => invariant) ?_ fun _ other => other
    rintro result state ⟨invariant, same, accepted⟩
    refine ⟨invariant, ?_, accepted⟩
    rw [same]
    exact inRange

theorem shutdown_keepsPorts (inRange : self.InRange) :
    KeepsSocket strict InRangeAfter (self.shutdown : NetM smol _) := by
  refine .bind (updateState_spec self inRange .connected .closed (fun _ invariant => invariant)
    fun _ => ?_)
    fun stream => ?_
  · refine .bind (unwrapHandle_keepsPorts _) fun handle =>
      MemTriple.bind (withSocketMut_keepsPorts handle fun _ _ => .pure) fun _ =>
        MemTriple.bind pollInterfaces_keepsPorts fun _ => .pure fun _ invariant => ⟨invariant, ?_⟩
    rintro (impossible | impossible) <;> cases impossible
  · split
    · exact .pure fun _ kept => kept
    · refine .fixed fun state kept => ?_
      have listener : KeepsSocket strict InRangeAfter (stream.2.updateState .listening .closed shutdownListener :
          NetM smol (Except SocketState (AxResult Unit) × TcpSocket)) := by
        refine updateState_spec stream.2 kept.2 .listening .closed (fun _ invariant => invariant) fun listening => ?_
        refine .bind (ListenTable.unlisten_keepsPorts (kept.2 listening)) fun _ =>
          MemTriple.bind pollInterfaces_keepsPorts fun _ => .pure fun _ invariant => ⟨invariant, fun _ => ?_⟩
        exact (by decide : Listenable 0)
      refine .bind (listener.from kept.1) fun listener => ?_
      split
      · exact .pure fun _ kept => kept
      · exact .pure fun _ kept => kept

theorem close_keepsPorts : KeepsPorts strict (self.close : NetM smol Unit) := by
  unfold close
  split
  · exact .pure
  · exact .bind (withSocketMut_keepsPorts _ fun _ _ => .pure) fun _ => pollInterfaces_keepsPorts

theorem drop_keepsPorts (inRange : self.InRange) : KeepsPorts strict (self.drop : NetM smol Unit) := by
  refine MemTriple.bind (shutdown_keepsPorts self inRange) fun result => .fixed fun state kept => ?_
  split
  · exact KeepsPorts.from Preserves.pure kept.1
  · exact (remove_keepsPorts _).from kept.1

theorem onConnected_keepsPorts (inRange : self.InRange) (once : smol.Socket → AxResult α × smol.Socket) :
    KeepsSocket strict InRangeAfter (self.onConnected once) := by
  unfold onConnected
  split
  · exact .of_pure inRange
  · split
    · exact .of_pure inRange
    · refine .bind (unwrapHandle_keepsPorts self) fun handle =>
        blockOn_keepsPorts self (fun self holds => ?_) (fun _ inRange => inRange) inRange
      exact (withSocketMut_keepsPorts handle fun _ _ => .pure).unchanged holds

theorem poll_keepsPorts (inRange : self.InRange) :
    KeepsSocket strict InRangeAfter (self.poll : NetM smol _) := by
  have stream : KeepsPorts strict (self.pollStream : NetM smol _) :=
    Preserves.bind (unwrapHandle_keepsPorts self) fun handle => withSocket_keepsPorts handle fun _ => .pure
  unfold poll
  cases shape : self.state with
  | closed => exact .of_pure inRange
  | busy => exact .of_pure inRange
  | connecting => exact pollConnect_keepsPorts self inRange
  | connected => exact stream.unchanged inRange
  | listening =>
    have listener : KeepsPorts strict (self.pollListener : NetM smol _) := by
      refine .bind (ListenTable.canAccept_keepsPorts (inRange shape)) fun ready => ?_
      split
      · exact .pure
      · exact .pure
    exact listener.unchanged inRange

end TcpSocket

end RootTaskDemo.Net
