import RootTaskDemo.Ipc.Marshal
import RootTaskDemo.Net.LockDiscipline

namespace RootTaskDemo.Ipc

open Common Lib Thread Kernel

variable {ν α β : Type} {platform : Platform}
variable {socket : Net.TcpSocket} {id : UInt64}

/-! The payloads of `sys_sendto` and `sys_recvfrom`, between the memory of a task
and the net thread. -/

def SameNet (before after : KernelState ν) : Prop := after.net = before.net

instance : IsPreorder (KernelState ν) SameNet where
  refl _ := rfl
  trans _ _ _ first second := Eq.trans second first

theorem loadBytes_sameNet (address count : Nat) :
    Evolves SameNet (loadBytes platform address count : KernelM ν _) := by
  have byte : ∀ address, Evolves SameNet (loadByte platform address : KernelM ν UInt8) := by
    intro address
    refine .bind Evolves.read fun state => ?_
    split
    · split
      · exact .stop
      · exact .pure
    · exact .pure
  induction count generalizing address with
  | zero => exact .pure
  | succ count ih => exact (byte address).bind fun _ => (ih (address + 1)).bind fun _ => .pure

theorem storeBytes_sameNet (address : Nat) (bytes : List UInt8) :
    Evolves SameNet (storeBytes platform address bytes : KernelM ν Unit) := by
  have byte : ∀ address byte, Evolves SameNet (storeByte platform address byte : KernelM ν Unit) := by
    intro address byte
    refine .bind Evolves.read fun state => ?_
    split
    · split
      · exact .stop
      · exact .update fun _ => rfl
    · exact .update fun _ => rfl
  induction bytes generalizing address with
  | nil => exact .pure
  | cons first rest ih => exact (byte address first).bind fun _ => ih (address + 1)

theorem frameMap_sameNet (cap vspace : CPtr) (vaddr : Nat) (rights : CapRights) :
    Evolves SameNet (frameMap platform cap vspace vaddr rights : KernelM ν _) := by
  refine fun state => (frameMap_spec state cap vspace vaddr rights).partly ?_
  intro result after spec
  cases result with
  | ok value =>
    obtain ⟨_, _, _, _, _, _, rfl⟩ := spec
    rfl
  | error error => exact congrArg KernelState.net spec

theorem frameUnmap_sameNet (cap : CPtr) :
    Evolves SameNet (unwrapped (frameUnmap cap) : KernelM ν Unit) := by
  refine fun state => (unwrapped_spec (frameUnmap_spec state cap) fun _ => trivial).partly ?_
  rintro _ after ⟨object, mapped, -, rfl⟩
  obtain ⟨vspaces, unmaps⟩ := unmapFrame_frame state object mapped
  rw [unmaps]
  rfl

theorem withPage_sameNet (cap : CPtr) {body : KernelM ν α} (inside : Evolves SameNet body) :
    Evolves SameNet (withPage platform cap body) := by
  have copied : Evolves SameNet (unwrapped (cnodeCopy tempSlot cap) : KernelM ν Unit) := by
    refine fun state => (unwrapped_spec (cnodeCopy_spec state tempSlot cap) fun _ => trivial).weaken
      (fun _ same => same) ?_ fun _ _ => trivial
    rintro _ after ⟨-, _, rfl, -⟩
    rfl
  have deleted : Evolves SameNet (cnodeDelete platform tempSlot : KernelM ν Unit) := fun state =>
    (cnodeDelete_frame state tempSlot).partly (by rintro _ _ ⟨vspaces, rfl⟩; rfl)
  have shown : Evolves SameNet (withSeat platform tempSlot platform.pageSeat body) :=
    (unwrapped_evolves (frameMap_sameNet _ _ _ _)).bind fun _ => inside.bind fun _ =>
      (frameUnmap_sameNet _).bind fun _ => .pure
  exact copied.bind fun _ => shown.bind fun _ => deleted.bind fun _ => .pure

theorem readItemList_sameNet (size : Nat) (task : Sel4Task) (addr : Nat) (num : Option Nat)
    (buf : Nat) :
    Evolves SameNet (readItemList platform size task addr num buf : KernelM ν _) := by
  have pages : ∀ fuel len bufAddr acc, Evolves SameNet (processPages platform task addr
      (fun src offset copyLen (_ : Unit) => copyBytes platform src (buf + offset * size) (copyLen * size)) fuel len
      bufAddr acc : KernelM ν _) := by
    intro fuel
    induction fuel with
    | zero => exact fun _ _ _ => .pure
    | succ fuel ih =>
      intro len bufAddr acc
      unfold processPages
      split
      · exact .pure
      · split
        · exact .pure
        · refine (withPage_sameNet _ ((loadBytes_sameNet _ _).bind fun _ => storeBytes_sameNet _ _)).bind fun acc => ?_
          exact ih _ _ acc
  refine .bind ?_ fun _ => .pure
  unfold processItemList
  split
  · exact .pure
  · exact pages _ _ _ _

theorem withCapacity_spec (state : KernelState ν) (capacity : Nat) :
    RunFrom state (ByteVec.withCapacity platform capacity)
      (fun vector after => vector = ⟨platform.heapBuffer capacity, 0⟩ ∧ capacity ≤ platform.heapRoom ∧ after = state)
      (fun fault => fault = .panicked .noHeap ∧ platform.heapRoom < capacity) := by
  unfold ByteVec.withCapacity
  split
  · rename_i large
    exact .stop fun _ _ => ⟨rfl, large⟩
  · rename_i small
    exact .pure fun _ same => ⟨rfl, Nat.not_lt.mp small, same⟩

abbrev Handed := List (UInt64 × List UInt8)

def handOver (platform : Platform) (socketId : UInt64) (buf len : Nat) :
    KernelM Handed (AxResult UInt64) := do
  let slice ← loadBytes platform buf len
  update fun state => { state with net := state.net ++ [(socketId, slice)] }
  return .ok (UInt64.ofNat len)

/-- The payload of one call: handed over as it is in the memory of the task, or
refused if a part of it is not mapped. -/
structure SendFaithful (platform : Platform) (state : KernelState Handed) (badge : Nat)
    (task : Sel4Task) (socketFd buf len addr : Nat) : Prop where
  handed : ∀ bytes : List UInt8, bytes.length = len → state.Holds task buf bytes →
    MemTriple (fun now => now = state) (sysSendtoWith platform (handOver platform) badge socketFd buf len addr)
      (fun _ after => after.net = state.net ++ [(socketIdOf socketFd, bytes)]) (fun _ => False)
  refused : (∃ index < len, state.userByte task (buf + index) = none) →
    MemTriple (fun now => now = state) (sysSendtoWith platform (handOver platform) badge socketFd buf len addr)
      (fun result after => (∃ error, result = .error error) ∧ after.net = state.net) (fun _ => False)

section Send

variable {state : KernelState Handed} {badge : Nat} {task : Sel4Task} {socketFd buf len addr : Nat}

theorem handOver_empty (buf : Nat) (state : KernelState Handed) :
    Delivers state (handOver platform (socketIdOf socketFd) buf 0)
      fun result after => result = .ok 0 ∧ after.net = state.net ++ [(socketIdOf socketFd, [])] := by
  refine (.pure fun _ same => ⟨rfl, same⟩ : RunFrom state (loadBytes platform buf 0)
    (fun slice after => slice = [] ∧ after = state) _).bind fun slice => .fixed ?_
  rintro state ⟨rfl, rfl⟩
  refine .update_bind (.pure ?_)
  rintro _ rfl
  exact ⟨rfl, rfl⟩

theorem sysSendto_hands (socketFd buf len : Nat) (found : state.tasks[badge]? = some task)
    {dest : List UInt8} (size : dest.length = libcSocketAddrSize)
    (readable : state.Holds task addr dest) (ready : SeatReady platform state)
    (inPage : libcSocketAddrSize + addr % pageSize ≤ pageSize) :
    RunFrom state (sysSendtoWith platform (handOver platform) badge socketFd buf len addr)
      (fun _ after => after.net = state.net ++ [(socketIdOf socketFd, [])]) (fun _ => len ≠ 0) := by
  have item := readItem_returns ready readable (by rw [size]; decide) (by rw [size]; exact inPage)
  rw [size] at item
  refine .locked (((taskOf_returns found).raising).bind
    fun task => .fixed ?_)
  rintro state ⟨rfl, rfl⟩
  refine (item.raising).bind fun _ => .fixed ?_
  rintro _ ⟨rfl, rfl⟩
  refine ((withCapacity_spec _ len).onStop fun _ large =>
    Nat.ne_of_gt (Nat.zero_lt_of_lt large.2)).bind fun payload => .fixed ?_
  rintro _ ⟨rfl, -, rfl⟩
  have copied : RunFrom (state.setPage kernelVSpace platform.pageSeat none)
      (readItemList platform 1 task buf (some len) (platform.heapBuffer len))
      (fun _ after => after.net = state.net) (fun _ => len ≠ 0) := by
    by_cases empty : len = 0
    · subst empty
      exact .pure fun _ same => same ▸ rfl
    · exact (readItemList_sameNet 1 task buf (some len) _ _).onStop fun _ _ => empty
  refine copied.bind fun _ => .fixed ?_
  intro copied netEq
  refine ((handOver_empty _ copied).raising).bind fun _ =>
    MemTriple.fixed ?_
  rintro after ⟨rfl, handed⟩
  refine .pure ?_
  rintro _ rfl
  rw [handed, netEq]

theorem sysSendto_crossing (platform : Platform) (socketFd buf len : Nat)
    (found : state.tasks[badge]? = some task)
    (crossing : pageSize < libcSocketAddrSize + addr % pageSize) :
    Delivers state (sysSendtoWith platform (handOver platform) badge socketFd buf len addr)
      fun result after => result = .error .einval ∧ after.net = state.net := by
  refine .locked ((taskOf_returns found).bind fun _ => .fixed ?_)
  rintro _ ⟨rfl, rfl⟩
  rw [readItem_crossing _ crossing, pure_bind]
  refine .pure ?_
  rintro _ rfl
  exact ⟨rfl, rfl⟩

theorem sendto_faithful_iff (ready : SeatReady platform state)
    (found : state.tasks[badge]? = some task) {dest : List UInt8}
    (size : dest.length = libcSocketAddrSize) (readable : state.Holds task addr dest) :
    SendFaithful platform state badge task socketFd buf len addr ↔
      if libcSocketAddrSize + addr % pageSize ≤ pageSize then len = 0
      else ∃ index < len, state.userByte task (buf + index) = none := by
  split
  · rename_i inPage
    have hands := sysSendto_hands socketFd buf len found size readable ready inPage
    constructor
    · -- A payload that is not empty is either all there or has a gap; neither case goes as it should.
      refine fun faithful => by_contra fun nonempty => ?_
      rcases state.bytes_or_gap task buf len with ⟨bytes, length, holds⟩ | gap
      · obtain ⟨_, after, sent, sent'⟩ := (faithful.handed bytes length holds).meets hands
        have same := List.append_cancel_left (sent.symm.trans sent')
        simp only [List.cons.injEq, Prod.mk.injEq, and_true, true_and] at same
        rw [same] at length
        exact nonempty length.symm
      · obtain ⟨_, after, ⟨-, silent⟩, sent⟩ := (faithful.refused gap).meets hands
        simp [sent] at silent
    · rintro rfl
      refine ⟨fun bytes length _ => ?_, fun ⟨index, bound, _⟩ => absurd bound (Nat.not_lt_zero index)⟩
      rw [List.length_eq_zero_iff.mp length]
      exact hands.onStop fun _ never => never rfl
  · rename_i crossing
    have refuses := sysSendto_crossing platform socketFd buf len found (Nat.not_le.mp crossing)
    constructor
    · intro faithful
      rcases state.bytes_or_gap task buf len with ⟨bytes, length, holds⟩ | gap
      · obtain ⟨_, after, sent, -, silent⟩ := (faithful.handed bytes length holds).meets refuses
        simp [sent] at silent
      · exact gap
    · rintro ⟨index, bound, gap⟩
      refine ⟨fun bytes length holds => ?_, fun _ =>
        refuses.weaken (fun _ same => same) (fun _ _ spec => ⟨⟨_, spec.1⟩, spec.2⟩) nofun⟩
      have byte := holds index _ (List.getElem?_eq_getElem (length ▸ bound))
      rw [gap] at byte
      cases byte

end Send

theorem sendto_faithful_iff_oneTask :
    ¬ SendFaithful smallPlatform (oneTask [] (List.replicate 16 7)) 1 strayTask 4 0x1000 3 0x1000 :=
      fun faithful =>
  absurd ((sendto_faithful_iff (oneTask_ready ..) (oneTask_found ..) (List.length_replicate ..)
    (oneTask_holds [] (by decide))).mp faithful) (by decide)

/-- Three bytes are sent as none, and so is a buffer that is not mapped. -/
theorem sendto_payload_lost :
    (oneTask ([] : Handed) (List.replicate 16 7)).Holds strayTask 0x1000 [7, 7, 7] ∧
    (finalState ((sysSendtoWith smallPlatform (handOver smallPlatform) 1 4 0x1000 3 0x1000).run
      ⟨[], [], [], oneTask [] (List.replicate 16 7)⟩)).memory.net = [(4, [])] ∧
    (oneTask ([] : Handed) (List.replicate 16 7)).userByte strayTask 0x8000 = none ∧
    (finalState ((sysSendtoWith smallPlatform (handOver smallPlatform) 1 4 0x8000 3 0x1000).run
      ⟨[], [], [], oneTask [] (List.replicate 16 7)⟩)).memory.net = [(4, [])] := by
  refine ⟨?_, by decide +kernel⟩
  intro index byte found
  refine oneTask_holds [] (by decide) index byte ?_
  obtain ⟨bound, rfl⟩ := List.getElem?_eq_some_iff.mp found
  have same : ∀ index : Fin 3, (List.replicate 16 (7 : UInt8))[index.val]? =
    [7, 7, 7][index.val]? := by decide
  exact (same ⟨index, bound⟩).trans found

/-- The net thread behind the endpoint: it answers with the first reply to the request. -/
def netThread (smol : Net.Smoltcp) (errno : AxErrno) (layout : SocketAddrLayout) :
    NetLink (Net.NetState smol) :=
  fun info regs page net =>
    match (Net.handleIpc errno layout ⟨info, regs, page⟩ : Net.NetM smol (Option Memory)).run
      ⟨[], [], [], net⟩ with
    | .error _ _ => none
    | .ok page after => after.sent.head?.map fun words => { words, page, net := after.memory }

section Receive

variable {smol : Net.Smoltcp} {queued : smol.Socket → List UInt8}

/-- The receive queue of a socket: a receive takes from its front, and sending what is due does
not touch it, unless it is the end of TIME-WAIT. -/
structure ReceiveQueue (smol : Net.Smoltcp) (queued : smol.Socket → List UInt8) : Prop where
  length : ∀ socket, smol.recvQueue socket = (queued socket).length
  slice : ∀ len socket, queued socket ≠ [] → ∃ rest, smol.recvSlice len socket =
    some ((queued socket).take len, rest)
  egress : ∀ iface set handle socket, smol.state socket ≠ .timeWait →
    queued (smol.egress iface set handle socket) = queued socket ∧
      smol.state (smol.egress iface set handle socket) ≠ .timeWait

/-- The socket is connected and the bytes are on its queue; no frame arrives before they are taken.
-/
structure Awaiting (queued : smol.Socket → List UInt8) (id : UInt64) (bytes : List UInt8)
    (socket : Net.TcpSocket) (net : Net.NetState smol) : Prop where
  slot : net.socketVec[id.toNat]? = some (some socket)
  connected : socket.state = .connected
  queue : ∃ handle inner, socket.handle = some handle ∧ net.sockets[handle]? = some inner ∧
    queued inner = bytes ∧ smol.state inner ≠ .timeWait
  polled : socket.nonblock = false → ∃ later, net.incoming = ⟨[], []⟩ :: later

theorem recvOnce_empty (law : ReceiveQueue smol queued) {net : Net.NetState smol}
    {handle : Net.SocketHandle} {inner : smol.Socket} (found : net.sockets[handle]? = some inner)
    (nonempty : queued inner ≠ []) :
    Delivers net (Net.SocketSetWrapper.withSocketMut handle fun socket : smol.Socket =>
      return Net.TcpSocket.recvOnce 0 socket)
      fun result after => result = .ok [] ∧ after.page = net.page := by
  refine .locked (.read_bind ?_)
  rintro net rfl
  obtain ⟨rest, sliced⟩ := law.slice 0 inner nonempty
  have some : smol.recvQueue inner > 0 := by
    rw [law.length]
    exact List.length_pos_iff.mpr nonempty
  simp only [found, Net.TcpSocket.recvOnce, some, if_true, sliced, List.take_zero, pure_bind]
  refine .update_bind (.pure ?_)
  rintro _ rfl
  exact ⟨rfl, rfl⟩

theorem pollInterface_quiet (iface : Net.Interface) (net : Net.NetState smol) :
    Delivers net (Net.pollInterface iface [] : Net.NetM smol Unit)
      fun _ after => after.page = net.page ∧ after.sockets = net.sockets.map (smol.egress iface net.sockets) := by
  refine .update ?_
  rintro _ rfl
  exact ⟨rfl, rfl⟩

theorem pollInterfaces_quiet {net : Net.NetState smol} {later : List Net.Batch}
    (quiet : net.incoming = ⟨[], []⟩ :: later) :
    Delivers net (Net.SocketSetWrapper.pollInterfaces : Net.NetM smol Unit)
      fun _ after => after.page = net.page ∧ ∃ first second : Net.SocketSet smol.Socket,
        after.sockets = (net.sockets.map (smol.egress .loopback first)).map (smol.egress .eth0 second) := by
  have next : Delivers net (Net.nextBatch : Net.NetM smol _)
      fun batch after => batch = ⟨[], []⟩ ∧ after.page = net.page ∧ after.sockets = net.sockets := by
    refine MemTriple.read_bind ?_
    rintro net rfl
    simp only [quiet]
    refine MemTriple.update_bind (.pure ?_)
    rintro _ rfl
    exact ⟨rfl, rfl, rfl⟩
  refine next.bind fun batch => .fixed ?_
  rintro polled ⟨rfl, page, sockets⟩
  refine (MemTriple.locked (MemTriple.locked
    (MemTriple.locked (pollInterface_quiet .loopback polled)))).bind fun _ =>
    MemTriple.fixed ?_
  rintro middle ⟨middlePage, middleSockets⟩
  refine (MemTriple.locked (MemTriple.locked
    (MemTriple.locked (pollInterface_quiet .eth0 middle)))).weaken
    (fun _ same => same) ?_ fun _ never => never
  rintro _ after ⟨afterPage, afterSockets⟩
  refine ⟨by rw [afterPage, middlePage, page], polled.sockets, middle.sockets, ?_⟩
  rw [afterSockets, middleSockets, ← sockets]

theorem recv_empty (law : ReceiveQueue smol queued) {bytes : List UInt8} (nonempty : bytes ≠ [])
    {net : Net.NetState smol} (awaiting : Awaiting queued id bytes socket net) :
    Delivers net (socket.recv 0) fun result after => result.1 = .ok [] ∧ after.page = net.page := by
  obtain ⟨handle, inner, handleEq, found, queuedEq, live⟩ := awaiting.queue
  have once : ∀ (now : Net.NetState smol) inner, now.sockets[handle]? = some inner → queued inner ≠ [] →
      now.page = net.page → MemTriple (fun memory => memory = now)
        (Net.SocketSetWrapper.withSocketMut handle (fun socket : smol.Socket => return Net.TcpSocket.recvOnce 0 socket) >>=
          fun result => pure (result, socket))
        (fun result after => result.1 = .ok [] ∧ after.page = net.page) (fun _ => False) := by
    intro now inner found nonempty page
    refine (recvOnce_empty law found nonempty).bind fun result => .pure ?_
    rintro after ⟨rfl, pageEq⟩
    exact ⟨rfl, pageEq.trans page⟩
  unfold Net.TcpSocket.recv Net.TcpSocket.onConnected
  rw [awaiting.connected, if_neg (by decide), if_neg (by decide)]
  simp only [Net.TcpSocket.unwrapHandle, handleEq, pure_bind]
  unfold Net.TcpSocket.blockOn
  by_cases waits : socket.nonblock = false
  · obtain ⟨later, quiet⟩ := awaiting.polled waits
    rw [waits, if_neg (by decide)]
    refine .read_bind ?_
    rintro net rfl
    rw [quiet]
    refine (pollInterfaces_quiet quiet).bind fun _ => .fixed ?_
    rintro polled ⟨page, first, second, sockets⟩
    have still : polled.sockets[handle]? =
        some (smol.egress .eth0 second handle (smol.egress .loopback first handle inner)) := by
      rw [sockets, Std.TreeMap.getElem?_map, Std.TreeMap.getElem?_map, found]
      rfl
    obtain ⟨kept, alive⟩ := law.egress .loopback first handle inner live
    have full : queued (smol.egress .eth0 second handle (smol.egress .loopback first handle inner)) ≠ [] := by
      rw [(law.egress .eth0 second handle _ alive).1, kept, queuedEq]
      exact nonempty
    refine (once polled _ still full page).bind fun result => ?_
    refine .fixed ?_
    rintro after ⟨value, pageEq⟩
    rw [value]
    exact .pure fun _ same => ⟨value, same ▸ pageEq⟩
  · rw [Bool.not_eq_false] at waits
    rw [waits, if_pos rfl]
    exact once net inner found (queuedEq ▸ nonempty) rfl

theorem onSocket_answers {net : Net.NetState smol}
    (slot : net.socketVec[id.toNat]? = some (some socket))
    {request : Net.TcpSocket → Net.NetM smol (List UInt64 × Net.TcpSocket)} {words : List UInt64}
    {page : Option Memory}
    (requests : Delivers net (request socket) fun result after => result.1 = words ∧ after.page =
      page)
    (silent : Replies 0 (request socket)) :
    Triple (fun world => world.memory = net ∧ world.sent = []) (Net.onSocket id request)
      (fun _ world => world.memory.page = page ∧ world.sent = [words]) (fun _ _ => False) := by
  have unwraps : Delivers net (Net.unwrapSocket id : Net.NetM smol _)
      fun result after => result = socket ∧ after = net := by
    refine (Net.unwrapSocket_spec net id).weaken (fun _ same => same) ?_ fun _ missing => missing.2 socket slot
    rintro result after ⟨rfl, found⟩
    rw [slot] at found
    exact ⟨(Option.some.inj (Option.some.inj found)).symm, rfl⟩
  have noReply : Replies 0 (Net.unwrapSocket id : Net.NetM smol _) :=
    (Net.unwrapSocket_disciplined id : Disciplined (fun _ => True) 0 _).replies
  refine Replies.under_lock (fun memory sent => memory = net ∧ sent = [])
    (fun _ memory sent => memory.page = page ∧ sent = [words]) ?_
  refine (Replies.silently noReply unwraps []).bind fun found => ?_
  rintro world ⟨⟨rfl, same⟩, sent⟩
  refine ((Replies.silently silent requests []).bind fun result => ?_) world ⟨same, sent⟩
  rintro world ⟨⟨rfl, pageEq⟩, sent⟩
  change world.memory.page = page ∧ world.sent ++ [result.1] = [result.1]
  exact ⟨pageEq, by rw [sent, List.nil_append]⟩

theorem handleRecv_empty (errno : AxErrno) (law : ReceiveQueue smol queued) (ptr : UInt64)
    {bytes : List UInt8} (nonempty : bytes ≠ []) {net : Net.NetState smol}
    (awaiting : Awaiting queued id bytes socket net) {page : Memory} (pageEq : net.page = some page) :
    Triple (fun world => world.memory = net ∧ world.sent = []) (Net.handleRecv errno id ptr 0)
      (fun _ world => world.memory.page = some page ∧ world.sent = [[0]]) (fun _ _ => False) := by
  refine onSocket_answers awaiting.slot ?_ ?_
  · have slices : Delivers net (Net.slicePage ptr 0 : Net.NetM smol Memory)
        fun result after => result = page ∧ after = net := by
      refine (.read_bind ?_ : MemTriple _ Net.mapPage (fun result after => result = page ∧ after = net) _).bind
        fun result => ?_
      · rintro net rfl
        rw [pageEq]
        exact .pure fun _ same => ⟨rfl, same⟩
      · have inside : ¬ Net.pageSize < (ptr.toNat % Net.pageSize + (0 : UInt64).toNat) % 2 ^ 64 := by
          unfold Net.pageSize
          change ¬ 0x1000 < (ptr.toNat % 0x1000 + 0) % 2 ^ 64
          omega
        rw [if_neg inside, if_neg (by decide)]
        exact .pure fun _ holds => holds
    refine slices.bind fun _ => .fixed ?_
    rintro net ⟨rfl, rfl⟩
    refine (recv_empty law nonempty awaiting).bind fun result => .fixed ?_
    rintro after ⟨value, -⟩
    rw [value]
    refine .update_bind (.pure ?_)
    rintro _ rfl
    exact ⟨rfl, congrArg some (Memory.store_nil ..)⟩
  · refine ((Net.slicePage_disciplined ptr 0 : Disciplined Net.belowTable 0 _).andThen fun page =>
      (Net.TcpSocket.onConnected_disciplined socket _).andThen fun ans => ?_).replies
    split
    · exact .pure
    · exact Disciplined.update.andThen fun _ => .pure

theorem netThread_recv_empty (errno : AxErrno) (layout : SocketAddrLayout)
    (law : ReceiveQueue smol queued) (ptr : UInt64) {bytes : List UInt8} (nonempty : bytes ≠ [])
    {net : Net.NetState smol} (awaiting : Awaiting queued id bytes socket net) (page : Memory)
    (regs : MsgRegs) :
    ∃ after, netThread smol errno layout ((NetRequsetabel.recv id ptr 0).build regs).1
      ((NetRequsetabel.recv id ptr 0).build regs).2 (some page) net =
        some { words := [0], page := some page, net := after } := by
  have granted : Awaiting queued id bytes socket { net with page := some page } :=
    ⟨awaiting.slot, awaiting.connected, awaiting.queue, awaiting.polled⟩
  have handles : Triple (fun world => world.memory = { net with page := some page } ∧ world.sent = [])
      (Net.handleMessage errno layout ⟨((NetRequsetabel.recv id ptr 0).build regs).1,
        ((NetRequsetabel.recv id ptr 0).build regs).2, some page⟩)
      (fun _ world => world.memory.page = some page ∧ world.sent = [[0]]) (fun _ _ => False) := by
    have label : ((NetRequsetabel.recv id ptr 0).build regs).1.label = 0x405 := rfl
    unfold Net.handleMessage
    dsimp only
    rw [label, if_neg (by decide), NetRequsetabel.tryFrom_build]
    exact handleRecv_empty errno law ptr nonempty granted rfl
  let start : Net.NetWorld smol := ⟨[], [], [], { net with page := some page }⟩
  obtain ⟨_, after, ran, pageEq, sent⟩ :=
    handles.returns (show start.memory = { net with page := some page } ∧ start.sent = [] from ⟨rfl, rfl⟩)
  refine ⟨{ after.memory with page := none }, ?_⟩
  have handled : ∀ message : Net.NetMessage, message.page = some page →
      (Net.handleMessage errno layout message : Net.NetM smol Unit).run start = .ok () after →
      (Net.handleIpc errno layout message : Net.NetM smol _).run ⟨[], [], [], net⟩ =
        .ok after.memory.page { after with memory := { after.memory with page := none } } := by
    rintro ⟨info, regs, _⟩ rfl ran
    unfold Net.handleIpc
    rw [EStateM.run_bind]
    change (Net.handleMessage errno layout ⟨info, regs, some page⟩ >>= fun _ => _).run start = _
    rw [EStateM.run_bind, ran]
    rfl
  unfold netThread
  rw [handled _ rfl ran]
  simp only [sent, pageEq, List.head?_cons, Option.map_some]

section Call

variable {errno : AxErrno} {layout : SocketAddrLayout} {state : KernelState (Net.NetState smol)}
  {badge : Nat}
  {task : Sel4Task} {socketFd buf len : Nat} {bytes : List UInt8}

theorem granted_userByte {slot : CPtr} {contents : List UInt8}
    {granted : KernelState (Net.NetState smol)} (page : PageGranted slot contents state granted)
    (free : state.cspace slot = none) (named : FramesNamed state) {other : Sel4Task} {addr : Nat}
    {byte : UInt8} (before : state.userByte other addr = some byte)
    (answer : NetAnswer (Net.NetState smol)) (regs : MsgRegs) :
    (granted.answered regs (some slot) answer).userByte other addr = some byte := by
  unfold KernelState.userByte at before ⊢
  simp only [Option.bind_eq_bind, Option.bind_eq_some_iff] at before ⊢
  obtain ⟨cap, recorded, frame, frameEq, byteEq⟩ := before
  obtain ⟨mapped, capEq⟩ := frameOf_iff.mp frameEq
  have apart : cap ≠ slot := by
    rintro rfl
    rw [capEq] at free
    cases free
  have same : frame = cap := named cap frame mapped capEq
  refine ⟨cap, recorded, frame, ?_, ?_⟩
  · unfold KernelState.frameOf at frameEq ⊢
    rw [← frameEq, ← page.caps cap apart]
    rfl
  · have frames : (granted.answered regs (some slot) answer).frames frame = state.frames frame := by
      rw [same]
      unfold KernelState.answered
      cases answer.page with
      | none =>
        dsimp only
        rw [page.frames, Function.update_of_ne apart]
      | some contents =>
        dsimp only
        rw [Function.update_of_ne apart, page.frames, Function.update_of_ne apart]
    rw [frames, byteEq]

theorem sysRecvfrom_returns (law : ReceiveQueue smol queued) (ready : SeatReady platform state)
    (can : CanAllocate platform state) (named : FramesNamed state)
    (found : state.tasks[badge]? = some task) (nonempty : bytes ≠ [])
    (awaiting : Awaiting queued (socketIdOf socketFd) bytes socket state.net)
    (fits : len ≤ platform.heapRoom) :
    Delivers state
      (sysRecvfrom platform (netThread smol errno layout) errno badge socketFd buf len)
      fun result after => result = .ok 0 ∧ ∀ (other : Sel4Task) (addr : Nat) (byte : UInt8),
        state.userByte other addr = some byte → after.userByte other addr = some byte := by
  have received : Delivers state
      (Tcp.recv platform (netThread smol errno layout) errno (socketIdOf socketFd) (platform.heapBuffer len) 0)
      fun result after => result = .ok 0 ∧ ∀ (other : Sel4Task) (addr : Nat) (byte : UInt8),
        state.userByte other addr = some byte → after.userByte other addr = some byte := by
    unfold Tcp.recv
    rw [if_neg (by decide)]
    have grants : RunFrom state (genCap platform 1 (platform.heapBuffer len) (some 0)) _ _ :=
      genCap_shows can ready.kernel ready.tables (Nat.zero_le _) (Nat.zero_le _)
        fun _ impossible => absurd impossible (Nat.not_lt_zero _)
    refine grants.bind fun cap => .fixed ?_
    rintro granted ⟨rfl, -, page⟩
    obtain ⟨net, answers⟩ := netThread_recv_empty errno layout law
      (UInt64.ofNat (platform.heapBuffer len)) nonempty
      (page.net ▸ awaiting) (granted.frames state.emptySlots.1) granted.msgRegs
    have sends : Delivers granted
        (sendNetIpc (netThread smol errno layout)
          (.recv (socketIdOf socketFd) (UInt64.ofNat (platform.heapBuffer len)) (UInt64.ofNat 0)) (some state.emptySlots.1))
        fun _ after => after.msgRegs 0 = 0 ∧ ∀ (other : Sel4Task) (addr : Nat) (byte : UInt8),
          state.userByte other addr = some byte → after.userByte other addr = some byte := by
      refine .read_bind ?_
      rintro granted rfl
      simp only [Option.bind_some, page.frame, Option.map_some]
      rw [show UInt64.ofNat 0 = 0 from rfl, answers]
      refine .update ?_
      rintro _ rfl
      exact ⟨rfl, fun other addr byte before => granted_userByte page can.free named before _ _⟩
    refine sends.bind fun _ => .fixed ?_
    rintro after ⟨word, kept⟩
    refine (msgReg_returns after 0).bind fun register => .fixed ?_
    rintro after ⟨rfl, rfl⟩
    rw [word]
    exact .pure fun _ same => ⟨rfl, same ▸ kept⟩
  refine .locked ((taskOf_returns found).bind fun task => .fixed ?_)
  rintro state ⟨rfl, rfl⟩
  refine ((withCapacity_spec state len).onStop fun _ large =>
    absurd large.2 (Nat.not_lt.mpr fits)).bind fun recvBuf => .fixed ?_
  rintro state ⟨rfl, -, rfl⟩
  refine received.bind fun result => .fixed ?_
  rintro after ⟨rfl, kept⟩
  have whole : (buf + 2 ^ 64 - buf) % 2 ^ 64 = 0 := by
    rw [Nat.add_sub_cancel_left, Nat.mod_self]
  refine .pure ?_
  rintro _ rfl
  exact ⟨congrArg Except.ok whole, kept⟩

theorem sysRecvfrom_overflows (found : state.tasks[badge]? = some task)
    (large : platform.heapRoom < len) :
    Yields state
      (sysRecvfrom platform (netThread smol errno layout) errno badge socketFd buf len) fun _ _ => False := by
  refine .locked ((taskOf_returns found).raising.bind fun task => .fixed ?_)
  rintro state ⟨rfl, rfl⟩
  refine ((withCapacity_spec state len).partly fun _ _ spec => spec).bind
    fun recvBuf => .fixed fun _ spec => ?_
  exact absurd spec.2.1 (Nat.not_le.mpr large)

/-- The bytes queued on the socket end up in the buffer, as many as fit, and nothing else changes.
-/
def RecvFaithful (platform : Platform) (errno : AxErrno) (layout : SocketAddrLayout)
    (state : KernelState (Net.NetState smol)) (badge : Nat) (task : Sel4Task)
    (socketFd buf len : Nat) (bytes : List UInt8) : Prop :=
  MemTriple (fun now => now = state)
    (sysRecvfrom platform (netThread smol errno layout) errno badge socketFd buf len)
    (fun result after => result = .ok (min len bytes.length) ∧ after.Holds task buf (bytes.take len) ∧
      ∀ (key : Nat) (other : Sel4Task) (addr : Nat) (byte : UInt8), state.tasks[key]? = some other →
        (key = badge → addr < buf ∨ buf + min len bytes.length ≤ addr) →
        state.userByte other addr = some byte → after.userByte other addr = some byte) (fun _ => False)

theorem recvfrom_faithful_iff (law : ReceiveQueue smol queued) (ready : SeatReady platform state)
    (can : CanAllocate platform state) (named : FramesNamed state)
    (found : state.tasks[badge]? = some task) (nonempty : bytes ≠ []) {socket : Net.TcpSocket}
    (awaiting : Awaiting queued (socketIdOf socketFd) bytes socket state.net) :
    RecvFaithful platform errno layout state badge task socketFd buf len bytes ↔ len = 0 := by
  have returns : len ≤ platform.heapRoom → MemTriple (fun now => now = state)
      (sysRecvfrom platform (netThread smol errno layout) errno badge socketFd buf len) _ _ :=
    sysRecvfrom_returns law ready can named found nonempty awaiting
  constructor
  · intro faithful
    by_cases fits : len ≤ platform.heapRoom
    · obtain ⟨result, after, ⟨count, -⟩, none, -⟩ := MemTriple.meets faithful (returns fits)
      rw [none] at count
      have zero := Except.ok.inj count
      have positive := List.length_pos_iff.mpr nonempty
      omega
    · obtain ⟨_, _, -, never⟩ := MemTriple.meets faithful (sysRecvfrom_overflows found (Nat.not_le.mp fits))
      exact never.elim
  · rintro rfl
    refine (returns (Nat.zero_le _)).mono ?_
    rintro result after ⟨rfl, kept⟩
    refine ⟨by rw [Nat.zero_min], fun index byte impossible => ?_, fun _ other addr byte _ _ =>
      kept other addr byte⟩
    simp at impossible

end Call

end Receive

/-! A connected socket of the small stack with bytes to receive. -/

theorem small_receiveQueue : ReceiveQueue .small Net.SmallSocket.received where
  length _ := rfl
  slice _ _ _ := ⟨_, rfl⟩
  egress _ _ _ _ live := ⟨rfl, live⟩

def connectedSocket : Net.TcpSocket :=
  { state := .connected, handle := some 0, localAddr := unspecifiedEndpoint,
    peerAddr := unspecifiedEndpoint,
    nonblock := false, reuseAddr := false }

def connectedNet (bytes : List UInt8) : Net.NetState .small :=
  { socketVec := [some connectedSocket]
    sockets := Std.TreeMap.empty.insert 0
      (.connection .established ⟨none, 0⟩ ⟨none, 0⟩ unspecifiedEndpoint unspecifiedEndpoint bytes)
    listenTable := fun _ => none
    curr := 0
    incoming := [⟨[], []⟩]
    page := none }

theorem connectedNet_awaiting (bytes : List UInt8) :
    Awaiting Net.SmallSocket.received (socketIdOf 0) bytes connectedSocket (connectedNet bytes) where
  slot := rfl
  connected := rfl
  queue := ⟨0, _, rfl, by simp [connectedNet]; rfl, rfl, Net.TcpState.noConfusion⟩
  polled _ := ⟨_, rfl⟩

theorem recvfrom_faithful_iff_oneTask :
    ¬ RecvFaithful smallPlatform .sequential .tagged (oneTask (connectedNet [7, 8]) []) 1 strayTask
      0 0x1000 2 [7, 8] :=
  fun faithful =>
    absurd ((recvfrom_faithful_iff small_receiveQueue (oneTask_ready ..)
    (oneTask_canAllocate _ _ (by decide))
    (oneTask_named _ _) (oneTask_found ..) (by decide) (connectedNet_awaiting [7, 8])).mp faithful) (by decide)

/-- Two bytes are queued and there is room for both; none is received. -/
theorem recvfrom_payload_lost :
    (finalState ((sysRecvfrom smallPlatform (netThread .small .sequential .tagged) .sequential 1 0 0x1000 2).run
      ⟨[], [], [], oneTask (connectedNet [7, 8]) []⟩)).memory.userByte strayTask 0x1000 = some 0 ∧
    returnValue ((sysRecvfrom smallPlatform (netThread .small .sequential .tagged) .sequential 1 0 0x1000 2).run
      ⟨[], [], [], oneTask (connectedNet [7, 8]) []⟩) = some (.ok 0) := by
  decide +kernel

end RootTaskDemo.Ipc
