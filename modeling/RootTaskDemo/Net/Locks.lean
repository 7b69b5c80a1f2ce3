import RootTaskDemo.Net.Handler

namespace RootTaskDemo.Net

open Common Lib Thread

variable {smol : Smoltcp} {α : Type} (self : TcpSocket) (handle : SocketHandle) (port : UInt16)
  (iface : Interface)
variable {locks : Lock → Prop} {f : TcpSocket → NetM smol (AxResult α × TcpSocket)}

/-! Which locks each operation of the net thread asks for. None of them sends a
message: only the request handlers reply. -/

def onlySet (lock : Lock) : Prop := lock = .socketSet

def onlySlots (lock : Lock) : Prop := ∃ port, lock = .listenSlot port

def setAndSlots (lock : Lock) : Prop := onlySet lock ∨ onlySlots lock

def belowTable (lock : Lock) : Prop := lock ≠ .socketVec

theorem onlySet_belowTable (lock : Lock) (member : onlySet lock) : belowTable lock := by
  rw [member]
  exact Lock.noConfusion

theorem setAndSlots_belowTable (lock : Lock) (member : setAndSlots lock) : belowTable lock := by
  rcases member with member | ⟨port, member⟩
  · exact onlySet_belowTable lock member
  · rw [member]
    exact Lock.noConfusion

theorem onlySlots_belowTable (lock : Lock) (member : onlySlots lock) : belowTable lock :=
  setAndSlots_belowTable lock (Or.inr member)

theorem panicWith_disciplined {count : Nat} (reason : Panic) :
    Disciplined locks count (panicWith reason : NetM smol α) := .stop

theorem locked_socketSet_disciplined {program : NetM smol α}
    (body : Disciplined (fun _ => False) 0 program) :
    Disciplined onlySet 0 (locked .socketSet program) :=
  body.locked id fun _ covered => covered.resolve_right id

theorem newTcpSocket_disciplined :
    Disciplined locks 0 (SocketSetWrapper.newTcpSocket : NetM smol _) := by
  refine Disciplined.read.andThen fun state => ?_
  split
  · exact .pure
  · exact panicWith_disciplined _

theorem add_disciplined (socket : smol.Socket) :
    Disciplined onlySet 0 (SocketSetWrapper.add socket) := by
  apply locked_socketSet_disciplined
  exact Disciplined.read.andThen fun state => Disciplined.update.andThen fun _ => .pure

theorem withSocket_disciplined {f : smol.Socket → NetM smol α}
    (body : ∀ socket, Disciplined (fun _ => False) 0 (f socket)) :
    Disciplined onlySet 0 (SocketSetWrapper.withSocket handle f) := by
  apply locked_socketSet_disciplined
  refine Disciplined.read.andThen fun state => ?_
  split
  · exact panicWith_disciplined _
  · exact body _

theorem withSocketMut_disciplined
    {f : smol.Socket → NetM smol (α × smol.Socket)} (outside : ¬ locks .socketSet)
    (body : ∀ socket, Disciplined locks 0 (f socket)) :
    Disciplined (fun lock => lock = .socketSet ∨ locks lock) 0 (SocketSetWrapper.withSocketMut handle f) := by
  refine Disciplined.locked (Disciplined.read.andThen fun state => ?_) outside fun _ covered => covered
  split
  · exact panicWith_disciplined _
  · exact (body _).andThen fun result => Disciplined.update.andThen fun _ => .pure

theorem bindCheck_disciplined (addr : IpAddress) (port : UInt16) :
    Disciplined onlySet 0 (SocketSetWrapper.bindCheck addr port : NetM smol _) := by
  apply locked_socketSet_disciplined
  refine Disciplined.read.andThen fun state => ?_
  split
  · exact .pure
  · exact .pure

theorem remove_disciplined :
    Disciplined onlySet 0 (SocketSetWrapper.remove handle : NetM smol Unit) := by
  apply locked_socketSet_disciplined
  refine Disciplined.read.andThen fun state => ?_
  split
  · exact panicWith_disciplined _
  · exact Disciplined.update

theorem isConnected_disciplined :
    Disciplined onlySet 0 (isConnected handle : NetM smol Bool) :=
  withSocket_disciplined handle fun _ => .pure

theorem isClosed_disciplined :
    Disciplined onlySet 0 (isClosed handle : NetM smol Bool) :=
  withSocket_disciplined handle fun _ => .pure

theorem getAddrTuple_disciplined :
    Disciplined onlySet 0 (getAddrTuple handle : NetM smol _) := by
  refine withSocket_disciplined handle fun socket => ?_
  split
  · exact .pure
  · exact panicWith_disciplined _

theorem dropQueue_disciplined (queue : List SocketHandle) :
    Disciplined onlySet 0 (ListenTableEntry.dropQueue queue : NetM smol Unit) := by
  induction queue with
  | nil => exact .pure
  | cons handle rest ih => exact (remove_disciplined handle).andThen fun _ => ih

theorem dropEntry_disciplined (entry : Option ListenTableEntry) :
    Disciplined onlySet 0 (dropEntry entry : NetM smol Unit) := by
  cases entry with
  | none => exact .pure
  | some entry => exact dropQueue_disciplined entry.synQueue

theorem lockSlot_disciplined {locks' : Lock → Prop}
    {body : Fin portNum → NetM smol α} (inner : ∀ slot, Disciplined locks 0 (body slot))
    (outside : ∀ slot, ¬ locks (.listenSlot slot)) (covers : ∀ lock, locks lock → locks' lock)
    (slots : ∀ lock, onlySlots lock → locks' lock) :
    Disciplined locks' 0 (ListenTable.lockSlot port body) := by
  unfold ListenTable.lockSlot
  split
  · refine (inner _).locked (outside _) fun lock covered => ?_
    rcases covered with same | member
    · exact slots lock ⟨_, same⟩
    · exact covers lock member
  · exact panicWith_disciplined _

theorem lockSlot_alone_disciplined {body : Fin portNum → NetM smol α}
    (inner : ∀ slot, Disciplined (fun _ => False) 0 (body slot)) :
    Disciplined onlySlots 0 (ListenTable.lockSlot port body) :=
  lockSlot_disciplined port inner (fun _ => id) (fun _ => False.elim) fun _ member => member

theorem lockSlot_set_disciplined {body : Fin portNum → NetM smol α}
    (inner : ∀ slot, Disciplined onlySet 0 (body slot)) :
    Disciplined setAndSlots 0 (ListenTable.lockSlot port body) :=
  lockSlot_disciplined port inner (fun _ => Lock.noConfusion) (fun _ member => Or.inl member)
    fun _ member => Or.inr member

namespace ListenTable

theorem canListen_disciplined :
    Disciplined onlySlots 0 (canListen port : NetM smol Bool) :=
  lockSlot_alone_disciplined port fun _ => Disciplined.read.andThen fun _ => .pure

theorem listen_disciplined (listenEndpoint : IpListenEndpoint) :
    Disciplined onlySlots 0 (listen listenEndpoint : NetM smol _) := by
  unfold listen
  split
  · exact panicWith_disciplined _
  · refine lockSlot_alone_disciplined _ fun slot => Disciplined.read.andThen fun state => ?_
    split
    · exact Disciplined.update.andThen fun _ => .pure
    · exact .pure

theorem unlisten_disciplined :
    Disciplined setAndSlots 0 (unlisten port : NetM smol Unit) :=
  lockSlot_set_disciplined port fun _ => Disciplined.read.andThen fun _ =>
    (dropEntry_disciplined _).andThen fun _ => .update

theorem findConnected_disciplined (queue : List SocketHandle) :
    Disciplined onlySet 0 (findConnected queue : NetM smol _) := by
  induction queue with
  | nil => exact .pure
  | cons handle rest ih =>
    refine (isConnected_disciplined handle).andThen fun connected => ?_
    split
    · exact .pure
    · exact ih.andThen fun _ => .pure

theorem accept_disciplined : Disciplined setAndSlots 0
    (accept port : NetM smol _) := by
  refine lockSlot_set_disciplined port fun slot => Disciplined.read.andThen fun state => ?_
  split
  · exact .pure
  · refine (findConnected_disciplined _).andThen fun found => ?_
    split
    · exact .pure
    · split
      · exact panicWith_disciplined _
      · refine Disciplined.update.andThen fun _ => (isClosed_disciplined _).andThen fun closed => ?_
        split
        · exact .pure
        · exact (getAddrTuple_disciplined _).andThen fun _ => .pure

theorem incomingTcpPacket_disciplined (src dst : IpEndpoint) :
    Disciplined onlySlots 0 (incomingTcpPacket src dst : NetM smol Unit) := by
  refine lockSlot_alone_disciplined _ fun slot => Disciplined.read.andThen fun state => ?_
  split
  · exact .pure
  · split
    · exact .pure
    · split
      · exact .pure
      · refine newTcpSocket_disciplined.andThen fun socket => ?_
        split
        · exact .pure
        · exact Disciplined.update.andThen fun _ => Disciplined.update

end ListenTable

theorem preprocess_disciplined (frame : List UInt8) :
    Disciplined onlySlots 0 (preprocess smol iface frame) := by
  obtain ⟨-, result, same⟩ | ⟨src, dst, -, same⟩ := preprocess_cases smol iface frame
  · rw [same]
    exact .pure
  · rw [same]
    exact (ListenTable.incomingTcpPacket_disciplined src dst).andThen fun _ => .pure

theorem pollInterface_disciplined (frames : List (List UInt8)) :
    Disciplined onlySlots 0 (pollInterface iface frames : NetM smol Unit) := by
  induction frames with
  | nil => exact .update
  | cons frame rest ih =>
    exact (preprocess_disciplined iface frame).andThen fun _ => Disciplined.update.andThen fun _ => ih

theorem nextBatch_disciplined : Disciplined locks 0 (nextBatch : NetM smol Batch) := by
  refine Disciplined.read.andThen fun state => ?_
  split
  · exact .pure
  · exact Disciplined.update.andThen fun _ => .pure

theorem pollInterface_locked_disciplined (frames : List (List UInt8)) :
    Disciplined setAndSlots 0 (locked .socketSet (pollInterface iface frames) : NetM smol Unit) := by
  refine (pollInterface_disciplined iface frames).locked ?_ fun _ covered => covered
  rintro ⟨port, same⟩
  cases same

theorem locked_pair_disciplined {outer inner : Lock} {program : NetM smol α}
    (body : Disciplined setAndSlots 0 program) (innerFree : ¬ setAndSlots inner)
    (outerFree : ¬ setAndSlots outer) (distinct : outer ≠ inner) (outerBelow : belowTable outer)
    (innerBelow : belowTable inner) :
    Disciplined belowTable 0 (locked outer (locked inner program)) := by
  refine (body.locked innerFree fun _ covered => covered).locked ?_ ?_
  · rintro (same | member)
    · exact distinct same
    · exact outerFree member
  · rintro lock (rfl | rfl | member)
    · exact outerBelow
    · exact innerBelow
    · exact setAndSlots_belowTable lock member

theorem pollInterfaces_disciplined :
    Disciplined belowTable 0 (SocketSetWrapper.pollInterfaces : NetM smol Unit) := by
  refine nextBatch_disciplined.andThen fun batch => Disciplined.andThen ?_ fun _ => ?_
  · exact locked_pair_disciplined (pollInterface_locked_disciplined _ _)
      (by simp [setAndSlots, onlySet, onlySlots])
      (by simp [setAndSlots, onlySet, onlySlots]) Lock.noConfusion Lock.noConfusion Lock.noConfusion
  · exact locked_pair_disciplined (pollInterface_locked_disciplined _ _)
      (by simp [setAndSlots, onlySet, onlySlots])
      (by simp [setAndSlots, onlySet, onlySlots]) Lock.noConfusion Lock.noConfusion Lock.noConfusion

theorem ephemeralLoop_disciplined (tries : Nat) :
    Disciplined onlySlots 0 (ephemeralLoop tries : NetM smol _) := by
  induction tries with
  | zero => exact .pure
  | succ tries ih =>
    refine Disciplined.read.andThen fun state => Disciplined.update.andThen fun _ =>
      (ListenTable.canListen_disciplined _).andThen fun free => ?_
    split
    · exact .pure
    · exact ih

theorem getEphemeralPort_disciplined :
    Disciplined belowTable 0 (getEphemeralPort : NetM smol (AxResult UInt16)) := by
  refine .locked ((ListenTable.canListen_disciplined _).andThen fun _ => ephemeralLoop_disciplined _)
    (by rintro ⟨port, same⟩; cases same) ?_
  rintro lock (rfl | member)
  · exact Lock.noConfusion
  · exact onlySlots_belowTable lock member

namespace TcpSocket

theorem addNew_disciplined :
    Disciplined belowTable 0 (SocketSetWrapper.newTcpSocket >>= SocketSetWrapper.add : NetM smol _) :=
  newTcpSocket_disciplined.andThen fun socket => (add_disciplined socket).mono onlySet_belowTable

theorem withSocketMut_pure (f : smol.Socket → α × smol.Socket) :
    Disciplined belowTable 0
      (SocketSetWrapper.withSocketMut handle fun socket => return f socket : NetM smol α) := by
  have inner : ∀ socket, Disciplined (fun _ => False) 0 (return f socket : NetM smol _) :=
    fun _ => .pure
  refine (withSocketMut_disciplined handle id inner).mono ?_
  rintro lock (rfl | impossible)
  · exact Lock.noConfusion
  · exact impossible.elim

theorem new_disciplined : Disciplined belowTable 0 (TcpSocket.new : NetM smol _) :=
  newTcpSocket_disciplined.andThen fun socket =>
    ((add_disciplined socket).mono onlySet_belowTable).andThen fun _ => .pure

theorem updateState_disciplined (expect next : SocketState)
    (body : ∀ busy, Disciplined belowTable 0 (f busy)) :
    Disciplined belowTable 0 (self.updateState expect next f) := by
  unfold updateState
  split
  · refine (body _).andThen fun result => ?_
    split
    · exact .pure
    · exact .pure
  · exact .pure

theorem blockOn_disciplined
    (body : ∀ self, Disciplined belowTable 0 (f self)) :
    Disciplined belowTable 0 (self.blockOn f) := by
  have loop : ∀ (batches : List Batch) (self : TcpSocket),
      Disciplined belowTable 0 (blockOnLoop f batches self) := by
    intro batches
    induction batches with
    | nil => exact fun _ => .stop
    | cons batch rest ih =>
      intro self
      refine pollInterfaces_disciplined.andThen fun _ => (body self).andThen fun result => ?_
      split
      · exact ih _
      · exact .pure
  unfold blockOn
  split
  · exact body self
  · exact Disciplined.read.andThen fun state => loop state.incoming self

theorem portOrEphemeral_disciplined :
    Disciplined belowTable 0 (portOrEphemeral port : NetM smol _) := by
  unfold portOrEphemeral
  split
  · exact getEphemeralPort_disciplined
  · exact .pure

theorem boundEndpoint_disciplined :
    Disciplined belowTable 0 (self.boundEndpoint : NetM smol _) := by
  refine (portOrEphemeral_disciplined _).andThen fun chosen => ?_
  split
  · exact .pure
  · split
    · exact panicWith_disciplined _
    · exact .pure

theorem handleOrAdd_disciplined :
    Disciplined belowTable 0 (self.handleOrAdd : NetM smol _) := by
  unfold handleOrAdd
  split
  · exact .pure
  · exact addNew_disciplined

theorem unwrapHandle_disciplined :
    Disciplined belowTable 0 (self.unwrapHandle : NetM smol _) := by
  unfold unwrapHandle
  split
  · exact .pure
  · exact panicWith_disciplined _

theorem connectSocket_disciplined (remote : IpEndpoint) (bound : IpListenEndpoint)
    (socket : smol.Socket) :
    Disciplined (fun lock => lock = iface.lock) 0 (connectSocket iface remote bound socket) := by
  have connecting : Disciplined (fun _ => False) 0
      (return smol.connect iface remote bound socket : NetM smol _) :=
    Disciplined.pure
  have guarded : Disciplined (fun lock => lock = iface.lock) 0
      (locked iface.lock (return smol.connect iface remote bound socket) :
        NetM smol (Except ConnectError smol.Socket)) :=
    connecting.locked id fun _ covered => covered.resolve_right id
  refine guarded.andThen fun connected => ?_
  split
  · exact .pure
  · exact .pure
  · split
    · exact .pure
    · exact panicWith_disciplined _

theorem connectStart_disciplined (remoteAddr : SocketAddr) (self : TcpSocket) :
    Disciplined belowTable 0 (connectStart remoteAddr self : NetM smol _) := by
  refine (handleOrAdd_disciplined self).andThen fun handle =>
    (boundEndpoint_disciplined self).andThen fun bound => ?_
  split
  · exact .pure
  · rename_i endpoint
    have connecting : Disciplined belowTable 0 (SocketSetWrapper.withSocketMut handle
        (connectSocket (interfaceFor (fromCoreSockaddr remoteAddr)) (fromCoreSockaddr remoteAddr) endpoint) :
          NetM smol (AxResult (IpEndpoint × IpEndpoint))) := by
      refine (withSocketMut_disciplined handle ?_ (connectSocket_disciplined _ _ _)).mono ?_
      · cases interfaceFor (fromCoreSockaddr remoteAddr) <;> exact Lock.noConfusion
      · cases interfaceFor (fromCoreSockaddr remoteAddr) <;> rintro lock (rfl | rfl) <;>
          exact Lock.noConfusion
    refine connecting.andThen fun result => ?_
    split
    · exact .pure
    · exact .pure

theorem pollConnect_disciplined :
    Disciplined belowTable 0 (self.pollConnect : NetM smol _) := by
  refine (unwrapHandle_disciplined self).andThen fun handle =>
    Disciplined.andThen ((withSocket_disciplined handle fun socket => ?_).mono onlySet_belowTable)
      fun _ => .pure
  split
  · exact .pure
  · split
    · exact .pure
    · exact panicWith_disciplined _
  · exact .pure

theorem connectPoll_disciplined :
    Disciplined belowTable 0 (self.connectPoll : NetM smol _) := by
  refine (pollConnect_disciplined self).andThen fun polled => ?_
  split
  · exact .pure
  · split
    · exact .pure
    · split
      · exact .pure
      · exact .pure

theorem connect_disciplined (remoteAddr : SocketAddr) :
    Disciplined belowTable 0 (self.connect remoteAddr : NetM smol _) := by
  refine (updateState_disciplined self _ _ (connectStart_disciplined remoteAddr)).andThen
    fun started => ?_
  split
  · exact .pure
  · exact .pure
  · split
    · exact .pure
    · exact blockOn_disciplined _ connectPoll_disciplined

theorem bindStart_disciplined (localAddr : SocketAddr) (self : TcpSocket) :
    Disciplined belowTable 0 (bindStart localAddr self : NetM smol _) := by
  have chosen : Disciplined belowTable 0 (choosePort localAddr : NetM smol _) := by
    refine (portOrEphemeral_disciplined _).andThen fun chosen => ?_
    split
    · exact .pure
    · exact .pure
  have checked : ∀ (self : TcpSocket) endpoint,
      Disciplined belowTable 0 (self.checkBind endpoint : NetM smol _) := by
    intro self endpoint
    unfold checkBind
    split
    · exact .pure
    · exact (bindCheck_disciplined _ _).mono onlySet_belowTable
  refine chosen.andThen fun chosen => ?_
  split
  · exact .pure
  · split
    · exact .pure
    · refine (checked _ _).andThen fun checked => ?_
      split
      · exact .pure
      · refine (boundEndpoint_disciplined _).andThen fun bound => ?_
        split
        · exact .pure
        · exact (handleOrAdd_disciplined _).andThen fun handle =>
            (withSocketMut_pure handle _).andThen fun _ => .pure

theorem bind_disciplined (localAddr : SocketAddr) :
    Disciplined belowTable 0 (self.bind localAddr : NetM smol _) := by
  refine (updateState_disciplined self _ _ (bindStart_disciplined localAddr)).andThen fun bound => ?_
  split
  · exact .pure
  · exact .pure

theorem listenStart_disciplined :
    Disciplined belowTable 0 (self.listenStart : NetM smol _) := by
  refine (boundEndpoint_disciplined self).andThen fun bound => ?_
  split
  · exact .pure
  · exact ((ListenTable.listen_disciplined _).mono onlySlots_belowTable).andThen fun _ => .pure

theorem listen_disciplined :
    Disciplined belowTable 0 (self.listen : NetM smol _) := by
  refine (updateState_disciplined self _ _ listenStart_disciplined).andThen fun started => ?_
  split
  · exact .pure
  · exact .pure

theorem accept_disciplined :
    Disciplined belowTable 0 (self.accept : NetM smol _) := by
  have once : ∀ self : TcpSocket,
      Disciplined belowTable 0 (self.acceptOnce : NetM smol _) := by
    intro self
    refine ((ListenTable.accept_disciplined _).mono setAndSlots_belowTable).andThen fun accepted => ?_
    split
    · exact .pure
    · exact .pure
  unfold accept
  split
  · exact .pure
  · exact blockOn_disciplined self once

theorem shutdownStream_disciplined :
    Disciplined belowTable 0 (self.shutdownStream : NetM smol _) :=
  (unwrapHandle_disciplined self).andThen fun handle => (withSocketMut_pure handle _).andThen fun _ =>
    pollInterfaces_disciplined.andThen fun _ => .pure

theorem shutdownListener_disciplined :
    Disciplined belowTable 0 (self.shutdownListener : NetM smol _) :=
  ((ListenTable.unlisten_disciplined _).mono setAndSlots_belowTable).andThen fun _ =>
    pollInterfaces_disciplined.andThen fun _ => .pure

theorem shutdown_disciplined :
    Disciplined belowTable 0 (self.shutdown : NetM smol _) := by
  refine (updateState_disciplined self _ _ shutdownStream_disciplined).andThen fun stream => ?_
  split
  · exact .pure
  · refine (updateState_disciplined _ _ _ shutdownListener_disciplined).andThen fun listener => ?_
    split
    · exact .pure
    · exact .pure

theorem close_disciplined : Disciplined belowTable 0 (self.close : NetM smol Unit) := by
  unfold close
  split
  · exact .pure
  · exact (withSocketMut_pure _ _).andThen fun _ => pollInterfaces_disciplined

theorem drop_disciplined : Disciplined belowTable 0 (self.drop : NetM smol Unit) := by
  refine (shutdown_disciplined self).andThen fun result => ?_
  split
  · exact .pure
  · exact (remove_disciplined _).mono onlySet_belowTable

theorem withSocketMut_decided {f : smol.Socket → NetM smol (α × smol.Socket)}
    (decided : ∀ socket, ∃ result, f socket = pure result) :
    Disciplined belowTable 0 (SocketSetWrapper.withSocketMut handle f) := by
  have inner : ∀ socket, Disciplined (fun _ => False) 0 (f socket) := by
    intro socket
    obtain ⟨result, same⟩ := decided socket
    rw [same]
    exact .pure
  refine (withSocketMut_disciplined handle id inner).mono ?_
  rintro lock (rfl | impossible)
  · exact Lock.noConfusion
  · exact impossible.elim

theorem onConnected_disciplined (once : smol.Socket → AxResult α × smol.Socket) :
    Disciplined belowTable 0 (self.onConnected once) := by
  unfold onConnected
  split
  · exact .pure
  · split
    · exact .pure
    · exact (unwrapHandle_disciplined self).andThen fun handle => blockOn_disciplined self fun self =>
        (withSocketMut_decided handle fun _ => ⟨_, rfl⟩).andThen fun _ => .pure

end TcpSocket

end RootTaskDemo.Net
