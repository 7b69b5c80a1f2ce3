import RootTaskDemo.Lib.Runs
import RootTaskDemo.Net.Ports

namespace RootTaskDemo.Net

open Common Lib Thread

variable {smol : Smoltcp} {segments : List Segment}

/-! A blocking connect and the segments of the peer. The wrapper looks at the
connection between two polls only, and one poll may take several segments. -/

inductive Segment where
  | synAck
  | data (bytes : List UInt8)
  | fin
  | rst
deriving DecidableEq

structure Connection where
  state : TcpState
  received : List UInt8
deriving DecidableEq

namespace Connection

def hear (self : Connection) : Segment → Connection
  | .synAck => if self.state = .synSent then { self with state := .established } else self
  | .data bytes =>
    if self.state = .established then { self with received := self.received ++ bytes } else self
  | .fin => if self.state = .established then { self with state := .closeWait } else self
  | .rst => { self with state := .closed }

def hearAll (self : Connection) (segments : List Segment) : Connection := segments.foldl hear self

@[simp] theorem hearAll_nil (self : Connection) : self.hearAll [] = self := rfl

@[simp] theorem hearAll_cons (self : Connection) (segment : Segment) (rest : List Segment) :
    self.hearAll (segment :: rest) = (self.hear segment).hearAll rest := rfl

theorem hearAll_append (self : Connection) (first second : List Segment) :
    self.hearAll (first ++ second) = (self.hearAll first).hearAll second := List.foldl_append

def OnItsWay (state : TcpState) : Prop :=
  state = .closed ∨ state = .synSent ∨ state = .established ∨ state = .closeWait

theorem hear_onItsWay {self : Connection} (onWay : OnItsWay self.state) (segment : Segment) :
    OnItsWay (self.hear segment).state := by
  cases segment with
  | synAck =>
    simp only [hear]
    split
    · exact Or.inr (Or.inr (Or.inl rfl))
    · exact onWay
  | data bytes =>
    simp only [hear]
    split
    · exact onWay
    · exact onWay
  | fin =>
    simp only [hear]
    split
    · exact Or.inr (Or.inr (Or.inr rfl))
    · exact onWay
  | rst => exact Or.inl rfl

theorem hearAll_onItsWay {self : Connection} (onWay : OnItsWay self.state) (segments : List Segment) :
    OnItsWay (self.hearAll segments).state := by
  induction segments generalizing self with
  | nil => exact onWay
  | cons segment rest ih => exact ih (hear_onItsWay onWay segment)

theorem hearAll_of_closed {self : Connection} (closed : self.state = .closed) (segments : List Segment) :
    (self.hearAll segments).state = .closed := by
  induction segments generalizing self with
  | nil => exact closed
  | cons segment rest ih =>
    apply ih
    cases segment <;> simp [hear, closed]

theorem hearAll_of_reset (reset : .rst ∈ segments) (self : Connection) :
    (self.hearAll segments).state = .closed := by
  induction segments generalizing self with
  | nil => cases reset
  | cons segment rest ih =>
    rcases List.mem_cons.mp reset with rfl | later
    · exact hearAll_of_closed rfl rest
    · exact ih later (self.hear segment)

theorem hearAll_of_closeWait {self : Connection} (waits : self.state = .closeWait)
    (kept : .rst ∉ segments) :
    (self.hearAll segments).state = .closeWait := by
  induction segments generalizing self with
  | nil => exact waits
  | cons segment rest ih =>
    apply ih _ fun member => kept (List.mem_cons_of_mem _ member)
    cases segment with
    | rst => exact absurd (List.mem_cons_self ..) kept
    | _ => simp [hear, waits]

theorem hearAll_of_established (received : List UInt8) (kept : .rst ∉ segments) :
    (hearAll ⟨.established, received⟩ segments).state = if .fin ∈ segments then .closeWait
      else .established := by
  induction segments generalizing received with
  | nil => rfl
  | cons segment rest ih =>
    have keptRest : .rst ∉ rest := fun member => kept (List.mem_cons_of_mem _ member)
    cases segment with
    | synAck => simpa [hear] using ih received keptRest
    | data bytes => simpa [hear] using ih (received ++ bytes) keptRest
    | fin => simpa [hear] using hearAll_of_closeWait (rfl : (⟨.closeWait, received⟩ : Connection).state = .closeWait) keptRest
    | rst => exact absurd (List.mem_cons_self ..) kept

end Connection

def Accepted (segments : List Segment) : Prop := .synAck ∈ segments ∧ .rst ∉ segments

def Refused (segments : List Segment) : Prop :=
  ∃ before after, segments = before ++ .rst :: after ∧ .synAck ∉ before

def ClosedAtOnce (segments : List Segment) : Prop :=
  .rst ∉ segments ∧ ∃ before after, segments = before ++ .synAck :: after ∧ .fin ∈ after

theorem closedAtOnce_synAck {rest : List Segment} (kept : .rst ∉ rest) :
    ClosedAtOnce (.synAck :: rest) ↔ .fin ∈ rest := by
  constructor
  · intro closes
    obtain ⟨-, before, after, split, ended⟩ := closes
    cases before with
    | nil =>
      cases split
      exact ended
    | cons first before =>
      cases split
      exact List.mem_append_right _ (List.mem_cons_of_mem _ ended)
  · intro ended
    exact ⟨by simpa using kept, [], rest, rfl, ended⟩

theorem closedAtOnce_cons {segment : Segment} (waits : segment ≠ .synAck) (keeps : segment ≠ .rst)
    (rest : List Segment) :
    ClosedAtOnce (segment :: rest) ↔ ClosedAtOnce rest := by
  constructor
  · intro closes
    obtain ⟨kept, before, after, split, ended⟩ := closes
    refine ⟨fun member => kept (List.mem_cons_of_mem _ member), ?_⟩
    cases before with
    | nil =>
      cases split
      exact absurd rfl waits
    | cons first before =>
      cases split
      exact ⟨before, after, rfl, ended⟩
  · intro closes
    obtain ⟨kept, before, after, rfl, ended⟩ := closes
    exact ⟨by simpa [keeps.symm] using kept, segment :: before, after, rfl, ended⟩

namespace Connection

theorem hearAll_of_synSent (received : List UInt8) (kept : .rst ∉ segments) :
    (.synAck ∉ segments → hearAll ⟨.synSent, received⟩ segments = ⟨.synSent, received⟩) ∧
    (.synAck ∈ segments → (ClosedAtOnce segments → (hearAll ⟨.synSent, received⟩ segments).state = .closeWait) ∧
      (¬ ClosedAtOnce segments → (hearAll ⟨.synSent, received⟩ segments).state = .established)) := by
  induction segments with
  | nil => simp
  | cons segment rest ih =>
    have keptRest : .rst ∉ rest := fun member => kept (List.mem_cons_of_mem _ member)
    cases segment with
    | synAck =>
      have opened := hearAll_of_established received keptRest
      rw [closedAtOnce_synAck keptRest]
      refine ⟨fun missing => absurd (List.mem_cons_self ..) missing, fun _ => ⟨fun ended => ?_, fun ongoing => ?_⟩⟩
      · exact opened.trans (if_pos ended)
      · exact opened.trans (if_neg ongoing)
    | data bytes => simpa [hear, closedAtOnce_cons] using ih keptRest
    | fin => simpa [hear, closedAtOnce_cons] using ih keptRest
    | rst => exact absurd (List.mem_cons_self ..) kept

theorem hearAll_of_waiting {received : List UInt8}
    (waits : (hearAll ⟨.synSent, received⟩ segments).state = .synSent) :
    hearAll ⟨.synSent, received⟩ segments = ⟨.synSent, received⟩ := by
  have kept : .rst ∉ segments := by
    intro reset
    rw [hearAll_of_reset reset] at waits
    cases waits
  obtain ⟨waiting, finished⟩ := hearAll_of_synSent received kept
  apply waiting
  intro acknowledged
  obtain ⟨closing, opened⟩ := finished acknowledged
  by_cases closes : ClosedAtOnce segments
  · rw [closing closes] at waits
    cases waits
  · rw [opened closes] at waits
    cases waits

end Connection

/-- How a stack takes the frames of a connection: the segments that a frame has for the
socket at a handle, and the bytes on the receive queue of a socket. -/
structure Hearing (smol : Smoltcp) where
  segments : Interface → List UInt8 → SocketHandle → smol.Socket → List Segment
  received : smol.Socket → List UInt8

def Smoltcp.tookOn (smol : Smoltcp) (handle : SocketHandle) (iface : Interface) :
    List (List UInt8) → smol.Socket → smol.Socket
  | [], socket => smol.egress iface ∅ handle socket
  | frame :: rest, socket => smol.tookOn handle iface rest (smol.ingress iface frame ∅ handle socket)

def Smoltcp.took (smol : Smoltcp) (handle : SocketHandle) (batch : Batch) (socket : smol.Socket) :
    smol.Socket :=
  smol.tookOn handle .eth0 batch.eth0 (smol.tookOn handle .loopback batch.loopback socket)

namespace Hearing

variable (hearing : Hearing smol) (handle : SocketHandle)

def connection (socket : smol.Socket) : Connection :=
  { state := smol.state socket, received := hearing.received socket }

/-- A socket on its way takes the segments of the frame, whatever else is in the set. -/
def Hears (iface : Interface) (frame : List UInt8) : Prop :=
  ∀ set handle socket, Connection.OnItsWay (smol.state socket) →
    smol.ingress iface frame set handle socket = smol.ingress iface frame ∅ handle socket ∧
      hearing.connection (smol.ingress iface frame ∅ handle socket) =
        (hearing.connection socket).hearAll (hearing.segments iface frame handle socket)

/-- The stack takes the frames that arrive so, and sending what is due leaves a socket on
its way as it is. -/
structure Sound (arrivals : List Batch) : Prop where
  queue : ∀ socket, smol.recvQueue socket = (hearing.received socket).length
  loopback : ∀ batch ∈ arrivals, ∀ frame ∈ batch.loopback, hearing.Hears .loopback frame
  eth0 : ∀ batch ∈ arrivals, ∀ frame ∈ batch.eth0, hearing.Hears .eth0 frame
  egress : ∀ iface set handle socket, Connection.OnItsWay (smol.state socket) →
    smol.egress iface set handle socket = smol.egress iface ∅ handle socket ∧
      hearing.connection (smol.egress iface ∅ handle socket) = hearing.connection socket

def heardOn (iface : Interface) : List (List UInt8) → smol.Socket → List Segment
  | [], _ => []
  | frame :: rest, socket =>
    hearing.segments iface frame handle socket ++
      heardOn iface rest (smol.ingress iface frame ∅ handle socket)

def heard (batch : Batch) (socket : smol.Socket) : List Segment :=
  hearing.heardOn handle .loopback batch.loopback socket ++
    hearing.heardOn handle .eth0 batch.eth0 (smol.tookOn handle .loopback batch.loopback socket)

variable {hearing handle} {arrivals : List Batch} {iface : Interface} {frames : List (List UInt8)}
  {socket : smol.Socket}

theorem Sound.tail {batch : Batch} (sound : hearing.Sound (batch :: arrivals)) :
    hearing.Sound arrivals where
  queue := sound.queue
  loopback other member := sound.loopback other (List.mem_cons_of_mem _ member)
  eth0 other member := sound.eth0 other (List.mem_cons_of_mem _ member)
  egress := sound.egress

theorem Hears.onItsWay {frame : List UInt8} (hears : hearing.Hears iface frame)
    (onWay : Connection.OnItsWay (smol.state socket)) :
    Connection.OnItsWay (smol.state (smol.ingress iface frame ∅ handle socket)) := by
  have heard := Connection.hearAll_onItsWay
    (show Connection.OnItsWay (hearing.connection socket).state from onWay)
    (hearing.segments iface frame handle socket)
  rwa [← (hears ∅ handle socket onWay).2] at heard

theorem connection_tookOn (sound : hearing.Sound arrivals)
    (hears : ∀ frame ∈ frames, hearing.Hears iface frame)
    (onWay : Connection.OnItsWay (smol.state socket)) :
    hearing.connection (smol.tookOn handle iface frames socket) =
      (hearing.connection socket).hearAll (hearing.heardOn handle iface frames socket) := by
  induction frames generalizing socket with
  | nil => exact (sound.egress iface ∅ handle socket onWay).2
  | cons frame rest ih =>
    have first := hears frame (List.mem_cons_self ..)
    rw [Smoltcp.tookOn, heardOn,
      ih (fun other member => hears other (List.mem_cons_of_mem _ member)) (first.onItsWay onWay),
      (first ∅ handle socket onWay).2, Connection.hearAll_append]

theorem onItsWay_tookOn (sound : hearing.Sound arrivals)
    (hears : ∀ frame ∈ frames, hearing.Hears iface frame)
    (onWay : Connection.OnItsWay (smol.state socket)) :
    Connection.OnItsWay (smol.state (smol.tookOn handle iface frames socket)) := by
  have heard := Connection.hearAll_onItsWay
    (show Connection.OnItsWay (hearing.connection socket).state from onWay)
    (hearing.heardOn handle iface frames socket)
  rwa [← connection_tookOn sound hears onWay] at heard

theorem connection_took {batch : Batch} (sound : hearing.Sound (batch :: arrivals))
    (onWay : Connection.OnItsWay (smol.state socket)) :
    hearing.connection (smol.took handle batch socket) =
      (hearing.connection socket).hearAll (hearing.heard handle batch socket) := by
  have loopback := sound.loopback batch (List.mem_cons_self ..)
  rw [Smoltcp.took, heard, connection_tookOn sound (sound.eth0 batch (List.mem_cons_self ..))
    (onItsWay_tookOn sound loopback onWay), connection_tookOn sound loopback onWay,
    Connection.hearAll_append]

end Hearing

/-- The socket is there, and the heap holds the sockets of the frames to come and of `due` more. -/
structure At (handle : SocketHandle) (socket : smol.Socket) (later : List Batch) (due : Nat)
    (state : NetState smol) : Prop where
  found : state.sockets[handle]? = some socket
  incoming : state.incoming = later
  room : state.RoomFor (state.firstSegments + due)

theorem At.map {f : SocketHandle → smol.Socket → smol.Socket} (at_ : At handle socket later due state) :
    At handle (f handle socket) later due { state with sockets := state.sockets.map f } := by
  refine ⟨by rw [Std.TreeMap.getElem?_map, at_.found, Option.map_some], at_.incoming, ?_⟩
  exact Nat.le_trans at_.room (Nat.sub_le_sub_left (Nat.le_of_eq Std.TreeMap.size_map) _)

def Never (_ : Fault) : Prop := False

section Poll

variable {handle : SocketHandle} {socket : smol.Socket} {later : List Batch} {due : Nat}

theorem incomingTcpPacket_keepsAt (lawful : smol.Lawful) (src : IpEndpoint) {dst : IpEndpoint}
    (listenable : Listenable dst.port) :
    MemTriple (At handle socket later (due + 1)) (ListenTable.incomingTcpPacket src dst : NetM smol Unit)
      (fun _ => At handle socket later due) Never := by
  have inside : dst.port.toNat < portNum := listenable
  unfold ListenTable.incomingTcpPacket ListenTable.lockSlot
  rw [dif_pos inside]
  refine MemTriple.locked (MemTriple.read_bind fun state at_ => ?_)
  have unchanged : RunFrom state (pure () : NetM smol Unit) (fun _ => At handle socket later due) Never := by
    apply MemTriple.pure
    intro now same
    rw [same]
    exact ⟨at_.found, at_.incoming, Nat.le_of_succ_le at_.room⟩
  split
  · exact unchanged
  · split
    · exact unchanged
    · split
      · exact unchanged
      · refine .bind ((SocketSetWrapper.newTcpSocket_spec state).onStop fun _ full => full.2 ?_) fun made => .fixed ?_
        · exact Nat.le_trans (Nat.succ_le_succ (Nat.zero_le _)) at_.room
        rintro state ⟨rfl, -⟩
        split
        · exact unchanged
        · refine MemTriple.update_bind (MemTriple.update fun now same => ?_)
          rw [same]
          have different : smol.freshHandle state.sockets ≠ handle := by
            intro taken
            apply lawful.freshHandle state.sockets
            rw [taken, Std.TreeMap.mem_iff_isSome_getElem?, at_.1]
            rfl
          refine ⟨?_, at_.incoming, at_.room.insert _ _⟩
          simp only [setEntry_sockets, Std.TreeMap.getElem?_insert]
          rw [if_neg fun same => different (compare_eq_iff_eq.mp same)]
          exact at_.1

theorem preprocess_keepsAt (lawful : smol.Lawful) {iface : Interface} {frame : List UInt8}
    (inRange : FrameInRange smol iface frame) :
    MemTriple (At handle socket later (due + if (snoopedPort smol iface frame).isSome then 1 else 0))
      (preprocess smol iface frame) (fun _ => At handle socket later due) Never := by
  obtain ⟨ignored, result, same⟩ | ⟨src, dst, snooped, same⟩ := preprocess_cases smol iface frame
  · rw [same, ignored]
    exact .pure fun _ at_ => at_
  · rw [same, snooped]
    exact .bind (incomingTcpPacket_keepsAt lawful src (inRange _ snooped)) fun _ => .pure fun _ at_ => at_

theorem pollInterface_takes (lawful : smol.Lawful) {hearing : Hearing smol} {arrivals : List Batch}
    (sound : hearing.Sound arrivals) {iface : Interface} {frames : List (List UInt8)}
    (hears : ∀ frame ∈ frames, hearing.Hears iface frame)
    (inRange : FramesInRange smol iface frames) (onWay : Connection.OnItsWay (smol.state socket)) :
    MemTriple (At handle socket later (due + smol.firstSegments iface frames)) (pollInterface iface frames)
      (fun _ => At handle (smol.tookOn handle iface frames socket) later due) Never := by
  induction frames generalizing socket with
  | nil =>
    apply MemTriple.update
    intro state at_
    rw [Smoltcp.tookOn, ← (sound.egress iface state.sockets handle socket onWay).1]
    exact at_.map
  | cons frame rest ih =>
    have first := hears frame (List.mem_cons_self ..)
    have taken : MemTriple (At handle socket later (due + smol.firstSegments iface rest))
      (update fun state : NetState smol =>
        { state with sockets := state.sockets.map (smol.ingress iface frame state.sockets) } : NetM smol Unit)
        (fun _ => At handle (smol.ingress iface frame ∅ handle socket) later (due + smol.firstSegments iface rest)) Never := by
      apply MemTriple.update
      intro state at_
      rw [← (first state.sockets handle socket onWay).1]
      exact at_.map
    rw [Smoltcp.firstSegments, List.countP_cons, ← Nat.add_assoc]
    exact (preprocess_keepsAt lawful (inRange frame (List.mem_cons_self ..))).bind fun _ => taken.bind fun _ =>
      ih (fun other member => hears other (List.mem_cons_of_mem _ member))
        (fun other member => inRange other (List.mem_cons_of_mem _ member)) (first.onItsWay onWay)

theorem pollInterfaces_takes (lawful : smol.Lawful) {hearing : Hearing smol} {batch : Batch}
    {arrivals : List Batch} (sound : hearing.Sound (batch :: arrivals))
    (inRange : batch.InRange smol) (onWay : Connection.OnItsWay (smol.state socket)) :
    MemTriple (At handle socket (batch :: later) 0) (SocketSetWrapper.pollInterfaces : NetM smol Unit)
      (fun _ => At handle (smol.took handle batch socket) later 0) Never := by
  have next : MemTriple (At handle socket (batch :: later) 0) (nextBatch : NetM smol Batch)
      (fun found state => found = batch ∧ At handle socket later (batch.firstSegments smol) state) Never := by
    refine .read_bind fun state at_ => ?_
    have room := at_.room
    rw [NetState.firstSegments, at_.incoming, List.map_cons, List.sum_cons, Nat.add_zero, Nat.add_comm] at room
    rw [at_.incoming]
    refine .update_bind (.pure fun now same => ?_)
    rw [same]
    exact ⟨rfl, at_.found, rfl, room⟩
  refine next.bind fun found => .fixed ?_
  rintro state ⟨rfl, at_⟩
  have loopback := sound.loopback found (List.mem_cons_self ..)
  rw [Batch.firstSegments, Nat.add_comm, ← Nat.zero_add (smol.firstSegments .eth0 _)] at at_
  refine .bind ((MemTriple.locked (.locked (.locked
    (pollInterface_takes lawful sound loopback inRange.1 onWay)))).startingAt at_) fun _ => ?_
  exact .locked (.locked (.locked (pollInterface_takes lawful sound (sound.eth0 found (List.mem_cons_self ..)) inRange.2
    (Hearing.onItsWay_tookOn sound loopback onWay))))

end Poll

/-- The segments of the first poll after which the socket is past its SYN. -/
def Hearing.decisive (hearing : Hearing smol) (handle : SocketHandle) :
    List Batch → smol.Socket → Option (List Segment)
  | [], _ => none
  | batch :: rest, socket =>
    if smol.state (smol.took handle batch socket) = .synSent
      then hearing.decisive handle rest (smol.took handle batch socket)
    else some (hearing.heard handle batch socket)

def TcpSocket.noticing (self : TcpSocket) : TcpState → TcpSocket
  | .synSent => self
  | .established => { self with state := .connected }
  | _ => { self with localAddr := unspecifiedEndpoint, peerAddr := unspecifiedEndpoint, state := .closed }

def connectOutcome : TcpState → AxResult Unit
  | .synSent => .error .wouldBlock
  | .established => .ok ()
  | _ => .error .connectionRefused

section Loop

variable {handle : SocketHandle} {socket : smol.Socket} {state : NetState smol} {self : TcpSocket}

theorem connectPoll_spec (lawful : smol.Lawful) (named : self.handle = some handle)
    (found : state.sockets[handle]? = some socket) :
    RunFrom state (self.connectPoll : NetM smol _)
      (fun result now => result = (connectOutcome (smol.state socket), self.noticing (smol.state socket)) ∧ now = state) Never := by
  have polls : RunFrom state (self.pollConnect : NetM smol _)
      (fun result now => result = (.ok ⟨false, smol.state socket ≠ .synSent⟩, self.noticing (smol.state socket)) ∧ now = state)
      Never := by
    have unwrapped : (self.unwrapHandle : NetM smol _) = pure handle := by rw [TcpSocket.unwrapHandle, named]
    unfold TcpSocket.pollConnect
    rw [unwrapped, pure_bind]
    refine .bind (?_ : MemTriple _ _ (fun result now =>
      result = (decide (smol.state socket ≠ .synSent), self.noticing (smol.state socket)) ∧
        now = state) _) fun result => ?_
    · refine SocketSetWrapper.withSocket_spec (fun inner lookup => ?_) fun missing => ?_
      · cases Option.some.inj (found.symm.trans lookup)
        cases stateEq : smol.state socket with
        | established =>
          have endpoints := lawful.endpoints socket (by rw [stateEq]; decide) (by rw [stateEq]; decide)
          obtain ⟨remote, remoteEq⟩ := Option.isSome_iff_exists.mp endpoints.2
          rw [remoteEq]
          exact .pure fun _ same => ⟨rfl, same⟩
        | _ => exact .pure fun _ same => ⟨rfl, same⟩
      · apply missing
        rw [Std.TreeMap.mem_iff_isSome_getElem?, found]
        rfl
    · refine .pure fun now spec => ?_
      rw [spec.1]
      exact ⟨rfl, spec.2⟩
  refine polls.bind fun result => .fixed ?_
  rintro now ⟨rfl, rfl⟩
  dsimp only
  cases smol.state socket with
  | _ => exact .pure fun _ same => ⟨rfl, same⟩

theorem blockOnLoop_connects (lawful : smol.Lawful) {hearing : Hearing smol} {batches : List Batch}
    (sound : hearing.Sound batches) (inRange : ∀ batch ∈ batches, batch.InRange smol)
    (named : self.handle = some handle) {received : List UInt8}
    (waits : hearing.connection socket = ⟨.synSent, received⟩)
    (decided : hearing.decisive handle batches socket = some segments) :
    MemTriple (At handle socket batches 0) (TcpSocket.blockOnLoop TcpSocket.connectPoll batches self)
      (fun result state => ∃ inner, state.sockets[handle]? = some inner ∧
        hearing.connection inner = Connection.hearAll ⟨.synSent, received⟩ segments ∧ smol.state inner ≠ .synSent ∧
        result = (connectOutcome (smol.state inner), self.noticing (smol.state inner))) Never := by
  induction batches generalizing socket with
  | nil => cases decided
  | cons batch rest ih =>
    have onWay : Connection.OnItsWay (smol.state socket) := Or.inr (Or.inl (congrArg Connection.state waits))
    have heard := @Hearing.connection_took _ hearing handle _ socket batch sound onWay
    rw [waits] at heard
    refine (pollInterfaces_takes lawful sound (inRange batch (List.mem_cons_self ..)) onWay).bind fun _ =>
      MemTriple.fixed fun state at_ => ?_
    refine (connectPoll_spec lawful named at_.1).bind fun result => .fixed ?_
    rintro now ⟨rfl, sameState⟩
    rw [sameState]
    by_cases still : smol.state (smol.took handle batch socket) = .synSent
    · rw [Hearing.decisive, if_pos still] at decided
      have waiting : hearing.connection (smol.took handle batch socket) = ⟨.synSent, received⟩ := by
        rw [heard]
        apply Connection.hearAll_of_waiting
        rw [← heard]
        exact still
      rw [still]
      exact (ih sound.tail (fun other member => inRange other (List.mem_cons_of_mem _ member))
        waiting decided).startingAt at_
    · rw [Hearing.decisive, if_neg still] at decided
      cases decided
      have decidedNow : isWouldBlock (connectOutcome (smol.state (smol.took handle batch socket))) = false := by
        revert still
        cases smol.state (smol.took handle batch socket) <;> simp [connectOutcome, isWouldBlock]
      rw [if_neg (by rw [decidedNow]; exact Bool.false_ne_true)]
      refine .pure fun now same => ?_
      rw [same]
      exact ⟨_, at_.1, heard, still, rfl⟩

structure Begun (self connecting : TcpSocket) (state : NetState smol) : Prop where
  blocking : connecting.nonblock = self.nonblock
  sent : ∃ handle socket, connecting.handle = some handle ∧ state.sockets[handle]? = some socket ∧
    smol.state socket = .synSent

theorem withSocketMut_connects (lawful : smol.Lawful) (handle : SocketHandle) (iface : Interface)
    (remote : IpEndpoint) (bound : IpListenEndpoint) :
    Leads (fun _ => True) (SocketSetWrapper.withSocketMut handle (TcpSocket.connectSocket iface remote bound))
      (fun result (now : NetState smol) => (∃ addrs, result = .ok addrs) →
        ∃ socket, now.sockets[handle]? = some socket ∧ smol.state socket = .synSent) := by
  refine .locked (.read_bind fun state _ => ?_)
  split
  · exact panicWith_triple fun _ _ => trivial
  · rename_i socket found
    have connects : Yields state (TcpSocket.connectSocket iface remote bound socket)
        fun result _ => (∃ addrs, result.1 = .ok addrs) → smol.state result.2 = .synSent := by
      refine .bind (.locked (.pure fun _ _ => rfl) : MemTriple _ _
        (fun connected _ => connected = smol.connect iface remote bound socket) _) fun connected => .fixed fun now same => ?_
      split
      · exact .pure fun _ _ never => by obtain ⟨_, ⟨⟩⟩ := never
      · exact .pure fun _ _ never => by obtain ⟨_, ⟨⟩⟩ := never
      · rename_i connected
        have sent := lawful.connected iface remote bound socket connected same.symm
        split
        · exact .pure fun _ _ _ => sent
        · exact panicWith_triple fun _ _ => trivial
    refine connects.bind fun result => .fixed fun now sent => ?_
    refine .update_bind (.pure fun after same succeeded => ?_)
    rw [same]
    exact ⟨result.2, Std.TreeMap.getElem?_insert_self, sent succeeded⟩

theorem connect_begins (lawful : smol.Lawful) (self : TcpSocket) (remoteAddr : SocketAddr) :
    Leads (fun _ => True) (self.updateState .closed .connecting (TcpSocket.connectStart remoteAddr))
      (fun result (now : NetState smol) => result.1 = .ok (.ok ()) → Begun self result.2 now) := by
  refine TcpSocket.updateState_triple (fun _ => ?_) fun _ _ _ => by rintro ⟨⟩
  refine MemTriple.anything.bind fun handle => MemTriple.anything.bind fun bound =>
    MemTriple.fixed fun now _ => ?_
  cases bound with
  | error error => exact .pure fun _ _ => by rintro ⟨⟩
  | ok bound =>
    refine ((withSocketMut_connects lawful handle _ _ bound).startingAt trivial).bind fun result =>
      MemTriple.fixed fun state sent => ?_
    cases result with
    | error error => exact .pure fun _ _ => by rintro ⟨⟩
    | ok addrs =>
      refine .pure fun after same _ => ?_
      obtain ⟨socket, found, synSent⟩ := sent ⟨addrs, rfl⟩
      rw [same]
      exact ⟨rfl, handle, socket, rfl, found, synSent⟩

/-- The result that a blocking connect owes its caller, once the peer has answered. -/
structure ReportsHandshake (hearing : Hearing smol) (handle : SocketHandle) (received : List UInt8)
    (segments : List Segment)
    (run : EStateM.Result Fault (NetWorld smol) (AxResult Unit × TcpSocket)) : Prop where
  accepted : Accepted segments → ∃ after world inner, run = .ok (.ok (), after) world ∧
    after.state = .connected ∧
    world.memory.sockets[handle]? = some inner ∧
    hearing.received inner = (Connection.hearAll ⟨.synSent, received⟩ segments).received ∧
    smol.recvQueue inner = (hearing.received inner).length
  refused : Refused segments → ∃ error after world, run = .ok (.error error, after) world

/-- A blocking connect reports the handshake if and only if the peer does not accept and
close between two polls: the state in which that leaves the socket is taken for a failure. -/
theorem connect_reports_iff (lawful : smol.Lawful) {hearing : Hearing smol}
    {self connecting : TcpSocket} {remoteAddr : SocketAddr} {world begun : NetWorld smol}
    (sound : hearing.Sound begun.memory.incoming) (blocking : self.nonblock = false)
    (started : (self.updateState .closed .connecting (TcpSocket.connectStart remoteAddr)).run
      world = .ok (.ok (.ok ()), connecting) begun)
    (named : connecting.handle = some handle) (found : begun.memory.sockets[handle]? = some socket)
    (inRange : ∀ batch ∈ begun.memory.incoming, batch.InRange smol)
    (room : begun.memory.RoomFor begun.memory.firstSegments) {segments : List Segment}
    (decided : hearing.decisive handle begun.memory.incoming socket = some segments) :
    ReportsHandshake hearing handle (hearing.received socket) segments ((self.connect remoteAddr).run world) ↔
      ¬ ClosedAtOnce segments := by
  obtain ⟨sameMode, handle', socket', named', found', sent⟩ :=
    (connect_begins lawful self remoteAddr).triple.of_run trivial started rfl
  cases Option.some.inj (named.symm.trans named')
  cases Option.some.inj (found.symm.trans found')
  have waits : hearing.connection socket = ⟨.synSent, hearing.received socket⟩ := by
    rw [Hearing.connection, sent]
  have runs : (self.connect remoteAddr).run world =
      (TcpSocket.blockOnLoop TcpSocket.connectPoll begun.memory.incoming connecting).run begun := by
    have patient : connecting.nonblock ≠ true := by
      rw [sameMode, blocking]
      exact Bool.false_ne_true
    rw [TcpSocket.connect, EStateM.run_bind, started]
    dsimp only
    rw [if_neg patient, TcpSocket.blockOn, if_neg patient]
    rfl
  have outcome := (blockOnLoop_connects lawful sound inRange named waits decided).triple begun
    ⟨found, rfl, room⟩
  rw [← runs] at outcome
  cases returned : (self.connect remoteAddr).run world with
  | error fault after =>
      rw [returned] at outcome
      exact outcome.elim
  | ok result after =>
      rw [returned] at outcome
      obtain ⟨inner, foundInner, heard, -, rfl⟩ := outcome
      have stateEq : smol.state inner = (Connection.hearAll ⟨.synSent, hearing.received socket⟩ segments).state :=
        congrArg Connection.state heard
      constructor
      · intro reports closes
        obtain ⟨kept, before, rest, rfl, ended⟩ := closes
        have acknowledged : .synAck ∈ before ++ .synAck :: rest := List.mem_append_right _ (List.mem_cons_self ..)
        obtain ⟨_, _, _, returned, -⟩ := reports.accepted ⟨acknowledged, kept⟩
        rw [((Connection.hearAll_of_synSent _ kept).2 acknowledged).1 ⟨kept, before, rest, rfl, ended⟩] at stateEq
        rw [stateEq] at returned
        cases returned
      · intro open_
        constructor
        · rintro ⟨acknowledged, kept⟩
          rw [((Connection.hearAll_of_synSent _ kept).2 acknowledged).2 open_] at stateEq
          refine ⟨_, after, inner, by rw [stateEq]; rfl, rfl, foundInner, ?_, sound.queue inner⟩
          exact congrArg Connection.received heard
        · rintro ⟨before, rest, rfl, -⟩
          rw [Connection.hearAll_of_reset (List.mem_append_right _ (List.mem_cons_self ..))] at stateEq
          exact ⟨.connectionRefused, _, after, by rw [stateEq]; rfl⟩

end Loop

/-! ## A stack that follows the segments

A frame is a segment for every socket; its first byte says which. -/

structure ScriptedSocket where
  connection : Connection
  bound : IpListenEndpoint
  localAddr : IpEndpoint
  remote : IpEndpoint

def frameSegments : List UInt8 → List Segment
  | [] => []
  | kind :: bytes =>
    if kind = 0 then [.synAck] else if kind = 1 then [.data bytes] else if kind = 2 then [.fin]
      else if kind = 3 then [.rst] else []

namespace ScriptedSocket

def isOpen (self : ScriptedSocket) : Bool :=
  self.connection.state ≠ .closed ∧ self.connection.state ≠ .listen

end ScriptedSocket

def Smoltcp.scripted : Smoltcp where
  Socket := ScriptedSocket
  newTcpSocket := { connection := ⟨.closed, []⟩, bound := ⟨none, 0⟩, localAddr := unspecifiedEndpoint, remote := unspecifiedEndpoint }
  capacity := heapSize / (tcpRxBufLen + tcpTxBufLen)
  capacity_fits := heap_capacity_fits
  state socket := socket.connection.state
  localEndpoint socket := if socket.isOpen then some socket.localAddr else none
  remoteEndpoint socket := if socket.isOpen then some socket.remote else none
  getBoundEndpoint socket := socket.bound
  setBoundEndpoint bound socket := { socket with bound }
  listen _ _ := none
  connect _ remote bound socket :=
    if socket.connection.state = .closed then
      .ok { socket with connection := ⟨.synSent, []⟩, localAddr := ⟨bound.addr.getD unspecifiedIp, bound.port⟩, remote }
    else .error .invalidState
  close socket := { socket with connection := { socket.connection with state := .closed } }
  recvQueue socket := socket.connection.received.length
  isActive socket := socket.isOpen
  mayRecv socket := socket.connection.state = .established ∨ socket.connection.received ≠ []
  canRecv socket := socket.connection.received ≠ []
  maySend socket := socket.connection.state = .established ∨ socket.connection.state = .closeWait
  canSend socket := socket.connection.state = .established ∨ socket.connection.state = .closeWait
  recvSlice len socket := some (socket.connection.received.take len,
    { socket with connection := { socket.connection with received := socket.connection.received.drop len } })
  sendSlice buf socket := some (buf.length, socket)
  freshHandle set := set.keys.foldr (fun handle next => max (handle + 1) next) 0
  ingress _ frame _ _ socket := { socket with connection := socket.connection.hearAll (frameSegments frame) }
  egress _ _ _ := id
  ethernetPayload _ := none
  ipv4Packet _ := none
  tcpPacket _ := none

theorem Smoltcp.scripted_lawful : Smoltcp.scripted.Lawful where
  freshHandle := handleBehind_not_mem
  endpoints socket notClosed notListening := by
    have opened : ScriptedSocket.isOpen socket = true := decide_eq_true ⟨notClosed, notListening⟩
    simp [Smoltcp.scripted, opened]
  connected iface remote bound socket socket' connected := by
    simp only [Smoltcp.scripted] at connected ⊢
    split at connected
    · cases connected
      rfl
    · cases connected

def Hearing.scripted : Hearing .scripted where
  segments _ frame _ _ := frameSegments frame
  received socket := socket.connection.received

theorem Hearing.scripted_sound (arrivals : List Batch) : Hearing.scripted.Sound arrivals where
  queue _ := rfl
  loopback _ _ _ _ _ _ _ _ := ⟨rfl, rfl⟩
  eth0 _ _ _ _ _ _ _ _ := ⟨rfl, rfl⟩
  egress _ _ _ _ _ := ⟨rfl, rfl⟩

def expecting (arrivals : List Batch) : World Lock (List UInt64) (NetState .scripted) :=
  finalState (TcpSocket.new.run ⟨[], [], [], { NetState.init .scripted with incoming := arrivals }⟩)

def idleClient : TcpSocket :=
  { state := .closed, handle := some 0, localAddr := unspecifiedEndpoint,
    peerAddr := unspecifiedEndpoint, nonblock := false,
    reuseAddr := false }

def busyClient : TcpSocket :=
  { idleClient with state := .connecting, localAddr := ⟨unspecifiedIp, 4096⟩, peerAddr := ⟨.ipv4 #v[10, 0, 2, 3], 80⟩ }

/-- The data comes with the SYN-ACK; the FIN comes with the next poll or with the same one. -/
theorem connect_reports_iff_scripted :
    ReportsHandshake .scripted 0 [] [.synAck, .data [7, 8]]
      ((idleClient.connect ⟨.v4 #v[10, 0, 2, 3], 80⟩).run (expecting [⟨[], [[0], [1, 7, 8]]⟩, ⟨[], [[2]]⟩])) ∧
    ¬ ReportsHandshake .scripted 0 [] [.synAck, .data [7, 8], .fin]
      ((idleClient.connect ⟨.v4 #v[10, 0, 2, 3], 80⟩).run (expecting [⟨[], [[0], [1, 7, 8], [2]]⟩])) := by
  have inRange : ∀ batch : Batch, batch.InRange .scripted := by
    intro batch
    constructor
    · intro frame _ port snooped
      cases snooped
    · intro frame _ port snooped
      cases snooped
  constructor
  · have returned : returnValue ((idleClient.updateState .closed .connecting (TcpSocket.connectStart ⟨.v4 #v[10, 0, 2, 3], 80⟩)).run
        (expecting [⟨[], [[0], [1, 7, 8]]⟩, ⟨[], [[2]]⟩])) = some (.ok (.ok ()), busyClient) := by decide +kernel
    have open_ : ¬ ClosedAtOnce [.synAck, .data [7, 8]] := by
      intro closes
      exact absurd ((closedAtOnce_synAck (by decide)).mp closes) (by decide)
    exact (connect_reports_iff Smoltcp.scripted_lawful (Hearing.scripted_sound _) rfl (ran_of_returnValue returned) rfl rfl
      (fun batch _ => inRange batch) (by decide +kernel) (by decide +kernel)).mpr open_
  · have returned : returnValue ((idleClient.updateState .closed .connecting (TcpSocket.connectStart ⟨.v4 #v[10, 0, 2, 3], 80⟩)).run
        (expecting [⟨[], [[0], [1, 7, 8], [2]]⟩])) = some (.ok (.ok ()), busyClient) := by decide +kernel
    intro reports
    exact (connect_reports_iff Smoltcp.scripted_lawful (Hearing.scripted_sound _) rfl (ran_of_returnValue returned) rfl rfl
      (fun batch _ => inRange batch) (by decide +kernel) (by decide +kernel)).mp reports ((closedAtOnce_synAck (by decide)).mpr (by decide))

/-- The peer accepts, sends two bytes and closes before the first poll: the connect is
refused and the socket closed, with the bytes in the queue of the stack. -/
theorem connect_refuses_closed_peer :
    let run := (idleClient.connect ⟨.v4 #v[10, 0, 2, 3], 80⟩).run (expecting [⟨[], [[0], [1, 7, 8], [2]]⟩])
    returnValue run = some (.error .connectionRefused, idleClient) ∧
    ((finalState run).memory.sockets[0]?).map (fun socket => Smoltcp.scripted.state socket) = some .closeWait ∧
    ((finalState run).memory.sockets[0]?).map (fun socket => Smoltcp.scripted.recvQueue socket) = some 2 := by
  decide +kernel

end RootTaskDemo.Net
