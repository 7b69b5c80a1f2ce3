import RootTaskDemo.Net.LockDiscipline
import RootTaskDemo.Net.Ports
import RootTaskDemo.Net.SocketOwnership

namespace RootTaskDemo.Net

open Common Lib Thread

variable {smol : Smoltcp} {α : Type} {state : NetState smol} {held : Option SocketHandle}
  {vec : List (Option TcpSocket)} {socket : TcpSocket} {handle : SocketHandle}
variable {program : NetM smol (α × TcpSocket)}

/-! Which requests the net thread serves: they come back, with one reply. -/

def Named (vec : List (Option TcpSocket)) : Prop :=
  ∀ (id : Nat) (socket : TcpSocket), vec[id]? = some (some socket) → ∃ handle, socket.handle =
    some handle

/-- The state between two steps of a request that holds the handle. Between two
requests none is held. -/
structure Served (held : Option SocketHandle) (state : NetState smol) : Prop where
  ports : PortsInvariant True 0 state
  sound : Sound held state.socketVec state
  handles : Named state.socketVec

theorem Named.set (handles : Named vec) (id : Nat) {slot : Option TcpSocket}
    (named : ∀ socket ∈ slot, ∃ handle, socket.handle = some handle) : Named (vec.set id slot) := by
  intro other socket found
  rw [List.getElem?_set] at found
  split at found
  · split at found
    · exact named socket (Option.some.inj found)
    · cases found
  · exact handles other socket found

theorem found_of_push {id : Nat}
    (found : (vec ++ [none])[id]? = some (some socket)) : vec[id]? = some (some socket) := by
  rw [List.getElem?_append] at found
  split at found
  · exact found
  · rw [List.getElem?_singleton] at found
    split at found
    · cases found
    · cases found

theorem Served.of_parts (ports : PortsInvariant True 0 state) (sound : Sound held vec state)
    (handles : Named vec) : Served held state := by
  obtain rfl := sound.table
  exact ⟨ports, sound, handles⟩

namespace Sound

variable {held : Option SocketHandle} {vec : List (Option TcpSocket)} {state : NetState smol}
  {id : Nat}
  {socket : TcpSocket} {handle : SocketHandle}

theorem replace (sound : Sound held vec state) {socket' : TcpSocket}
    (found : vec[id]? = some (some socket)) (named : socket.handle = some handle)
    (named' : socket'.handle = some handle) :
    Sound held (vec.set id (some socket')) { state with socketVec := vec.set id (some socket') } := by
  refine ⟨rfl, sound.exclusive.mono ?_ fun _ live => live, sound.queues, sound.counter⟩
  intro owner key owned
  cases owner with
  | caller => exact owned
  | listener slot => exact owned
  | socket other =>
    obtain ⟨stored, lookup, same⟩ := owned
    rw [List.getElem?_set] at lookup
    split at lookup
    · rename_i here
      split at lookup
      · cases lookup
        exact ⟨socket, here ▸ found, named.trans (named'.symm.trans same)⟩
      · cases lookup
    · exact ⟨stored, lookup, same⟩

theorem store (sound : Sound (some handle) vec state) (named : socket.handle = some handle) :
    Sound none (vec.set id (some socket)) { state with socketVec := vec.set id (some socket) } := by
  have mine : Owns (some handle) vec state.listenTable .caller handle := rfl
  refine ⟨rfl, sound.exclusive.give (.socket id) handle ?_ (fun _ live => live)
    (sound.exclusive.live .caller handle mine), sound.queues, sound.counter⟩
  have elsewhere : ∀ owner key, owner ≠ .caller →
      Owns (some handle) vec state.listenTable owner key → key ≠ handle := by
    rintro owner key other owned rfl
    exact other (sound.exclusive.unique owner .caller key owned mine)
  intro owner key owned
  cases owner with
  | caller => cases owned
  | listener slot => exact Or.inr ⟨elsewhere (.listener slot) key Owner.noConfusion owned, owned⟩
  | socket other =>
    obtain ⟨stored, lookup, same⟩ := owned
    rw [List.getElem?_set] at lookup
    split at lookup
    · rename_i here
      split at lookup
      · cases lookup
        rw [named] at same
        exact Or.inl ⟨(Option.some.inj same).symm, here ▸ rfl⟩
      · cases lookup
    · have owned : Owns (some handle) vec state.listenTable (.socket other) key := ⟨stored, lookup, same⟩
      exact Or.inr ⟨elsewhere (.socket other) key Owner.noConfusion owned, owned⟩

theorem takeOut (sound : Sound none vec state) (found : vec[id]? = some (some socket))
    (named : socket.handle = some handle) :
    Sound (some handle) (vec.set id none) { state with socketVec := vec.set id none } := by
  have stored : Owns none vec state.listenTable (.socket id) handle := ⟨socket, found, named⟩
  refine ⟨rfl, sound.exclusive.give .caller handle ?_ (fun _ live => live)
    (sound.exclusive.live _ handle stored), sound.queues, sound.counter⟩
  have elsewhere : ∀ owner key, owner ≠ .socket id → Owns none vec state.listenTable owner key →
      key ≠ handle := by
    rintro owner key other owned rfl
    exact other (sound.exclusive.unique owner _ key owned stored)
  intro owner key owned
  cases owner with
  | caller => exact Or.inl ⟨(Option.some.inj owned).symm, rfl⟩
  | listener slot => exact Or.inr ⟨elsewhere (.listener slot) key Owner.noConfusion owned, owned⟩
  | socket other =>
    obtain ⟨kept, lookup, same⟩ := owned
    rw [List.getElem?_set] at lookup
    split at lookup
    · split at lookup
      · cases lookup
      · cases lookup
    · rename_i different
      have owned : Owns none vec state.listenTable (.socket other) key := ⟨kept, lookup, same⟩
      exact Or.inr ⟨elsewhere (.socket other) key (fun same => different (Owner.socket.inj same).symm) owned, owned⟩

theorem push (sound : Sound held vec state) :
    Sound held (vec ++ [none]) { state with socketVec := vec ++ [none] } := by
  refine ⟨rfl, sound.exclusive.mono ?_ fun _ live => live, sound.queues, sound.counter⟩
  intro owner key owned
  cases owner with
  | caller => exact owned
  | listener slot => exact owned
  | socket other =>
    obtain ⟨kept, lookup, same⟩ := owned
    exact ⟨kept, found_of_push lookup, same⟩

end Sound

theorem Served.replace (served : Served held state) {id : Nat} {socket' : TcpSocket}
    (found : state.socketVec[id]? = some (some socket)) (named : socket.handle = some handle)
    (named' : socket'.handle = some handle) (inRange : socket'.InRange) :
    Served held { state with socketVec := state.socketVec.set id (some socket') } := by
  refine ⟨setSlot_portsInvariant served.ports id ?_, served.sound.replace found named named',
    served.handles.set id ?_⟩
  · rintro _ ⟨rfl⟩
    exact inRange
  · rintro _ ⟨rfl⟩
    exact ⟨handle, named'⟩

theorem Served.store (served : Served (some handle) state) (id : Nat)
    (named : socket.handle = some handle) (inRange : socket.InRange) :
    Served none { state with socketVec := state.socketVec.set id (some socket) } := by
  refine ⟨setSlot_portsInvariant served.ports id ?_, served.sound.store named, served.handles.set id ?_⟩
  · rintro _ ⟨rfl⟩
    exact inRange
  · rintro _ ⟨rfl⟩
    exact ⟨handle, named⟩

theorem Served.takeOut (served : Served none state) {id : Nat}
    (found : state.socketVec[id]? = some (some socket)) (named : socket.handle = some handle) :
    Served (some handle) { state with socketVec := state.socketVec.set id none } :=
  ⟨setSlot_portsInvariant served.ports id nofun, served.sound.takeOut found named,
    served.handles.set id nofun⟩

theorem Served.push (served : Served held state) :
    Served held { state with socketVec := state.socketVec ++ [none] } := by
  have ports : PortsInvariant True 0 { state with socketVec := state.socketVec ++ [none] } :=
    ⟨served.ports.frames, fun id socket found => served.ports.sockets id socket (found_of_push found),
      served.ports.counter, served.ports.room⟩
  exact ⟨ports, served.sound.push, fun id socket found => served.handles id socket (found_of_push found)⟩

def OnlyBlocks (fault : Fault) : Prop := fault = .blocked

/-- The program serves a request, if it does not wait forever. -/
abbrev Serves (state : NetState smol) (program : NetM smol α) : Prop :=
  RunFrom state program (fun _ => Served none) OnlyBlocks

theorem onlyBlocks {fault : Fault} (notIndex : NotIndex True fault) (waits : Waits fault) :
    OnlyBlocks fault := by
  rcases waits with blocked | ⟨port, past⟩ | full
  · exact blocked
  · exact absurd past (notIndex.index port)
  · exact absurd full (notIndex.memory trivial)

def KeepsServed (vec : List (Option TcpSocket)) (handle : SocketHandle) (state : NetState smol)
    (program : NetM smol (α × TcpSocket)) : Prop :=
  MemTriple (fun now => now = state) program
    (fun result now => (PortsInvariant True 0 now ∧ result.2.InRange) ∧ Sound none vec now ∧
      result.2.handle = some handle)
    OnlyBlocks

theorem KeepsPorts.served {program : NetM smol α} (ports : KeepsPorts True program)
    {held' : α → Option SocketHandle}
    (sound : ∀ vec, MemTriple (Sound held vec) program (fun value => Sound (held' value) vec) Waits) :
    MemTriple (Served held) program (fun value => Served (held' value)) OnlyBlocks := by
  refine .fixed fun state served => ?_
  refine (MemTriple.both (ports.from served.ports) (sound state.socketVec)).weaken ?_
    (fun _ _ kept => Served.of_parts kept.1 kept.2 served.handles) fun _ both => onlyBlocks both.1 both.2
  rintro _ rfl
  exact ⟨rfl, served.sound⟩

theorem KeepsHandle.served
    {pre : NetState smol → Prop} (keeps : KeepsHandle none vec handle program)
    (ports : MemTriple pre program (fun result now => PortsInvariant True 0 now ∧ result.2.InRange)
      (NotIndex True))
    (entry : pre state) (sound : Sound none vec state) : KeepsServed vec handle state program := by
  refine (MemTriple.both ports keeps).weaken ?_ (fun _ _ kept => kept) fun _ both =>
    onlyBlocks both.1 both.2
  rintro _ rfl
  exact ⟨entry, sound⟩

theorem KeepsServed.answer
    (keeps : KeepsServed vec handle state program)
    (words : α × TcpSocket → List UInt64) :
    KeepsServed vec handle state (do
      let ans ← program
      return (words ans, ans.2)) :=
  MemTriple.bind keeps fun _ => .pure fun _ kept => kept

theorem onSocket_served (served : Served none state) {id : UInt64}
    (found : state.socketVec[id.toNat]? = some (some socket))
    {request : TcpSocket → NetM smol (List UInt64 × TcpSocket)}
    (body : ∀ handle, socket.handle = some handle → Holds none state.socketVec handle →
      socket.InRange → KeepsServed state.socketVec handle state (request socket)) :
    Serves state (onSocket id request) := by
  obtain ⟨handle, named⟩ := served.handles _ _ found
  have holds : Holds none state.socketVec handle := Or.inr ⟨_, socket, found, named⟩
  refine .locked (.bind ((unwrapSocket_spec state id).onStop
      fun _ missing => absurd found (missing.2 socket)) fun unwrapped => .fixed ?_)
  rintro state ⟨rfl, again⟩
  obtain rfl : socket = unwrapped := by
    rw [found] at again
    exact Option.some.inj (Option.some.inj again)
  refine .bind (body handle named holds (served.ports.sockets _ _ found)) fun result =>
    MemTriple.bind (.update ?_) fun _ => .reply fun _ kept => kept
  rintro now ⟨⟨ports, inRange⟩, sound, kept⟩
  exact (Served.of_parts ports sound served.handles).replace (sound.table ▸ found) named kept inRange

def NetState.itemAt (layout : SocketAddrLayout) (state : NetState smol) (ptr : UInt64) :
    Option SocketAddr :=
  state.page.bind fun page =>
    if pageSize - ptr.toNat % pageSize < socketAddrSize then none
    else some (layout.read (page.load (ptr.toNat % pageSize) socketAddrSize))

def NetState.SliceOk (state : NetState smol) (buf bufLen : UInt64) : Prop :=
  state.page.isSome ∧ buf.toNat % pageSize + bufLen.toNat ≤ pageSize

instance (state : NetState smol) (buf bufLen : UInt64) : Decidable (state.SliceOk buf bufLen) :=
  inferInstanceAs (Decidable (_ ∧ _))

def NetState.AtSocket (state : NetState smol) (id : UInt64) (condition : TcpSocket → Prop) : Prop :=
  ∃ socket ∈ state.socketVec[id.toNat]?.join, condition socket

instance (state : NetState smol) (id : UInt64) (condition : TcpSocket → Prop) [DecidablePred condition] :
    Decidable (state.AtSocket id condition) :=
  inferInstanceAs (Decidable (∃ socket ∈ state.socketVec[id.toNat]?.join, condition socket))

/-- What each request needs to be answered: a socket in its slot, its operand in
the frame, and a port that has a slot in the listen table. A new socket needs room in the heap. -/
def NetState.CanServe (layout : SocketAddrLayout) (state : NetState smol) : NetRequsetabel → Prop
  | .new => state.RoomFor (state.firstSegments + 1)
  | .isNonBlocking id => id.toNat < state.socketVec.length
  | .bind id localAddr => ∃ addr ∈ state.itemAt layout localAddr,
      state.AtSocket id fun socket => socket.state = .closed → PortAvailable addr.port state
  | .connect id remoteAddr => (state.itemAt layout remoteAddr).isSome ∧
      state.AtSocket id fun socket => socket.state = .closed → PortAvailable socket.localAddr.port state
  | .listen id => state.AtSocket id fun socket => socket.state = .closed → socket.ListenAvailable state
  | .send id buf bufLen | .recv id buf bufLen =>
    state.SliceOk buf bufLen ∧ state.AtSocket id fun _ => True
  | .recvTimeout .. => False
  | .accept id | .close id | .setNonBlocking id _ | .shutdown id => state.AtSocket id fun _ => True

instance (layout : SocketAddrLayout) (state : NetState smol) : DecidablePred (state.CanServe layout)
  | .new => inferInstanceAs (Decidable (state.RoomFor _))
  | .isNonBlocking id => inferInstanceAs (Decidable (id.toNat < state.socketVec.length))
  | .bind id localAddr => inferInstanceAs (Decidable (∃ addr ∈ state.itemAt layout localAddr,
      state.AtSocket id fun socket => socket.state = .closed → PortAvailable addr.port state))
  | .connect _ _ | .send _ _ _ | .recv _ _ _ => inferInstanceAs (Decidable (_ ∧ _))
  | .listen id => inferInstanceAs (Decidable (state.AtSocket id fun _ => _))
  | .recvTimeout _ _ _ _ => isFalse id
  | .accept id | .close id | .setNonBlocking id _ | .shutdown id =>
      inferInstanceAs (Decidable (state.AtSocket id fun _ => True))

theorem NetState.AtSocket.found {id : UInt64} {condition : TcpSocket → Prop}
    (at_ : state.AtSocket id condition) :
    ∃ socket, state.socketVec[id.toNat]? = some (some socket) ∧ condition socket := by
  obtain ⟨socket, member, holds⟩ := at_
  exact ⟨socket, Option.join_eq_some_iff.mp member, holds⟩

theorem mapPage_spec (state : NetState smol) :
    RunFrom state mapPage (fun page now => now = state ∧ state.page = some page)
      (fun fault => NotMissing fault ∧ state.page = none) := by
  refine .read_bind ?_
  rintro state rfl
  cases arrived : state.page with
  | none => exact panicWith_triple fun _ _ => ⟨nofun, rfl⟩
  | some page => exact .pure fun _ same => ⟨same, rfl⟩

theorem readItem_spec (layout : SocketAddrLayout) (state : NetState smol) (ptr : UInt64) :
    RunFrom state (readItem layout ptr)
      (fun addr now => now = state ∧ state.itemAt layout ptr = some addr)
      (fun fault => NotMissing fault ∧ state.itemAt layout ptr = none) := by
  refine .bind ((mapPage_spec state).onStop ?_)
    fun page => .fixed ?_
  · rintro fault ⟨other, missing⟩
    exact ⟨other, by rw [NetState.itemAt, missing, Option.bind_none]⟩
  · rintro state ⟨rfl, arrived⟩
    rw [NetState.itemAt, arrived, Option.bind_some]
    split
    · exact panicWith_triple fun _ _ => ⟨nofun, rfl⟩
    · exact .pure fun _ same => ⟨same, rfl⟩

theorem slicePage_spec (state : NetState smol) (buf bufLen : UInt64) :
    RunFrom state (slicePage buf bufLen) (fun _ now => now = state)
      (fun fault => NotMissing fault ∧ ¬ state.SliceOk buf bufLen) := by
  refine .bind ((mapPage_spec state).weaken (fun _ same => same) (fun _ _ spec => spec.1) ?_)
    fun page => ?_
  · rintro fault ⟨other, missing⟩
    refine ⟨other, fun inPage => ?_⟩
    rw [NetState.SliceOk, missing] at inPage
    cases inPage.1
  · have bound : pageSize = 4096 := rfl
    split
    · exact panicWith_triple fun _ _ => ⟨nofun, fun inPage => by have inside := inPage.2; omega⟩
    · split
      · exact .stop fun _ _ => ⟨nofun, fun inPage => by have inside := inPage.2; omega⟩
      · exact .pure fun _ same => same

section Requests

variable {state : NetState smol} (served : Served none state) (errno : AxErrno)
  (layout : SocketAddrLayout) (id : UInt64)

include served

theorem handleBind_served (localAddr : UInt64) (can : state.CanServe layout (.bind id localAddr)) :
    Serves state (handleBind errno layout id localAddr) := by
  obtain ⟨addr, stored, occupied⟩ := can
  obtain ⟨socket, found, available⟩ := occupied.found
  refine onSocket_served served found fun handle named holds inRange => ?_
  refine .bind ((readItem_spec layout state localAddr).onStop ?_)
    fun read => .fixed ?_
  · intro _ missing
    rw [missing.2] at stored
    cases stored
  · rintro state ⟨rfl, readEq⟩
    obtain rfl : addr = read := Option.some.inj (stored.symm.trans readEq)
    exact ((socket.bind_keepsHandle holds named addr).served
      (socket.bind_spec inRange (fun _ => by rw [named]; rfl) addr)
      ⟨served.ports, available⟩ served.sound).answer _

theorem handleListen_served (can : state.CanServe layout (.listen id)) :
    Serves state (handleListen errno id) := by
  obtain ⟨socket, found, available⟩ := NetState.AtSocket.found can
  refine onSocket_served served found fun handle named holds inRange => ?_
  exact ((socket.listen_keepsHandle named).served (socket.listen_spec inRange) ⟨served.ports, available⟩
    served.sound).answer _

theorem handleSetNonBlocking_served (isNonblocking : UInt64)
    (can : state.CanServe layout (.setNonBlocking id isNonblocking)) :
    Serves state (handleSetNonBlocking id isNonblocking) := by
  obtain ⟨socket, found, -⟩ := NetState.AtSocket.found can
  refine onSocket_served served found fun handle named _ inRange => .pure ?_
  rintro _ rfl
  exact ⟨⟨served.ports, inRange⟩, served.sound, named⟩

theorem handleIsNonBlocking_served (can : state.CanServe layout (.isNonBlocking id)) :
    Serves state (handleIsNonBlocking id) := by
  have inside : id.toNat < state.socketVec.length := can
  refine .locked (.bind ((socketSlot_spec state id.toNat).weaken (fun _ same => same)
    (fun _ _ spec => spec.1) ?_) fun _ => .reply ?_)
  · intro _ missing
    exact absurd (List.getElem?_eq_none_iff.mp missing.2) (Nat.not_le.mpr inside)
  · rintro _ rfl
    exact served

variable (lawful : smol.Lawful)

include lawful

theorem handleConnect_served (remoteAddr : UInt64)
    (can : state.CanServe layout (.connect id remoteAddr)) :
    Serves state (handleConnect errno layout id remoteAddr) := by
  obtain ⟨stored, occupied⟩ := can
  obtain ⟨socket, found, available⟩ := occupied.found
  refine onSocket_served served found fun handle named holds inRange => ?_
  refine .bind ((readItem_spec layout state remoteAddr).weaken (fun _ same => same)
    (fun _ _ spec => spec.1) ?_)
    fun read => ?_
  · intro _ missing
    rw [missing.2] at stored
    cases stored
  · exact ((socket.connect_keepsHandle lawful holds named read).served
      (socket.connect_spec inRange (fun _ => by rw [named]; rfl) read)
      ⟨served.ports, available⟩ served.sound).answer _

theorem handleSend_served (buf bufLen : UInt64) (can : state.CanServe layout (.send id buf bufLen)) :
    Serves state (handleSend errno id buf bufLen) := by
  obtain ⟨inPage, occupied⟩ := can
  obtain ⟨socket, found, -⟩ := occupied.found
  refine onSocket_served served found fun handle named holds inRange => 
    .bind ((slicePage_spec state buf bufLen).onStop fun _ outside => absurd inPage outside.2) fun page => ?_
  exact ((socket.onConnected_keepsHandle lawful holds named _).served
    (socket.onConnected_keepsPorts inRange _)
    served.ports served.sound).answer _

theorem handleRecv_served (buf bufLen : UInt64) (can : state.CanServe layout (.recv id buf bufLen)) :
    Serves state (handleRecv errno id buf bufLen) := by
  obtain ⟨inPage, occupied⟩ := can
  obtain ⟨socket, found, -⟩ := occupied.found
  refine onSocket_served served found fun handle named holds inRange => 
    .bind ((slicePage_spec state buf bufLen).onStop fun _ outside => absurd inPage outside.2) fun page => ?_
  have received := (socket.onConnected_keepsHandle lawful holds named
    (TcpSocket.recvOnce bufLen.toNat)).served
    (socket.onConnected_keepsPorts inRange _) served.ports served.sound
  refine .bind received fun ans => ?_
  split
  · exact .pure fun _ kept => kept
  · refine .bind (.update fun now kept => ?_) fun _ => .pure fun _ kept => kept
    obtain ⟨⟨ports, range⟩, sound, same⟩ := kept
    exact ⟨⟨ports.update rfl rfl rfl (Nat.le_refl _), range⟩,
      ⟨sound.table, sound.exclusive, sound.queues, sound.counter⟩, same⟩

theorem handleShutdown_served (can : state.CanServe layout (.shutdown id)) :
    Serves state (handleShutdown errno id) := by
  obtain ⟨socket, found, -⟩ := NetState.AtSocket.found can
  refine onSocket_served served found fun handle named holds inRange => ?_
  exact ((socket.shutdown_keepsHandle lawful holds named).served
    (socket.shutdown_keepsPorts inRange) served.ports
    served.sound).answer _

end Requests

theorem allocSocketId_spec (state : NetState smol) :
    Delivers state allocSocketId fun id now => now.socketVec[id]? = some none ∧
      (now = state ∨ now = { state with socketVec := state.socketVec ++ [none] }) := by
  refine .locked (.read_bind ?_)
  rintro state rfl
  cases free : state.socketVec.findIdx? Option.isNone with
  | some id =>
    refine .pure ?_
    rintro _ rfl
    obtain ⟨inside, empty, -⟩ := List.findIdx?_eq_some_iff_getElem.mp free
    exact ⟨by rw [List.getElem?_eq_getElem inside, Option.isNone_iff_eq_none.mp empty], Or.inl rfl⟩
  | none =>
    refine .update_bind (.pure ?_)
    rintro _ rfl
    exact ⟨List.getElem?_concat_length, Or.inr rfl⟩

theorem assignSlot_spec {id : Nat} (free : state.socketVec[id]? = some none) (socket : TcpSocket) :
    Delivers state (assignSlot id socket) fun _ now =>
      now = { state with socketVec := state.socketVec.set id (some socket) } := by
  refine .bind ((socketSlot_spec state id).onStop ?_) fun old => .fixed ?_
  · intro _ missing
    rw [missing.2] at free
    cases free
  · rintro state ⟨rfl, found⟩
    obtain rfl : old = none := Option.some.inj (found.symm.trans free)
    exact .update_bind (.pure fun _ same => same)

theorem allocSocketId_served (served : Served held state) :
    RunFrom state allocSocketId (fun id now => Served held now ∧ now.socketVec[id]? = some none) OnlyBlocks := by
  refine (allocSocketId_spec state).weaken (fun _ same => same) ?_ nofun
  rintro id now ⟨free, rfl | rfl⟩
  · exact ⟨served, free⟩
  · exact ⟨served.push, free⟩

theorem assignSlot_served (id : Nat) (named : socket.handle = some handle)
    (inRange : socket.InRange) :
    MemTriple (fun now : NetState smol => Served (some handle) now ∧ now.socketVec[id]? = some none)
      (assignSlot id socket) (fun _ => Served none) OnlyBlocks := by
  refine .fixed ?_
  rintro state ⟨served, free⟩
  refine (assignSlot_spec free socket).weaken (fun _ same => same) ?_ nofun
  rintro _ _ rfl
  exact served.store id named inRange

theorem handleNew_served (lawful : smol.Lawful) (served : Served none state)
    (room : state.RoomFor (state.firstSegments + 1)) :
    Serves state (handleNew : NetM smol Unit) := by
  have ports : PortsInvariant True 1 state :=
    ⟨served.ports.frames, served.ports.sockets, served.ports.counter, fun _ => room⟩
  have created := (TcpSocket.new_spec.startingAt ports).both
    ((TcpSocket.new_sound lawful).startingAt served.sound)
  refine .bind (created.weaken (fun _ same => ⟨same, same⟩) (fun _ _ kept => kept)
    fun _ both => onlyBlocks both.1 both.2) fun socket => .fixed ?_
  rintro now ⟨⟨ports, inRange⟩, handle, named, sound⟩
  refine (allocSocketId_served (Served.of_parts ports sound served.handles)).bind fun id => ?_
  exact (MemTriple.locked (assignSlot_served id named inRange)).bind fun _ =>
    MemTriple.reply fun _ served => served

theorem unwrapSocket_served {id : UInt64}
    (found : state.socketVec[id.toNat]? = some (some socket)) :
    RunFrom state (unwrapSocket id) (fun value now => now = state ∧ value = socket) OnlyBlocks := by
  refine (unwrapSocket_spec state id).weaken (fun _ same => same) (fun value now spec => ⟨spec.1, ?_⟩)
    fun _ missing => absurd found (missing.2 socket)
  exact Option.some.inj (Option.some.inj (spec.2.symm.trans found))

theorem handleClose_served (lawful : smol.Lawful) (served : Served none state)
    (layout : SocketAddrLayout) (id : UInt64) (can : state.CanServe layout (.close id)) :
    Serves state (handleClose id) := by
  obtain ⟨socket, found, -⟩ := NetState.AtSocket.found can
  obtain ⟨handle, named⟩ := served.handles _ _ found
  have inRange := served.ports.sockets _ _ found
  have closing : MemTriple (Served (some handle)) (socket.close : NetM smol Unit)
    (fun _ => Served (some handle)) OnlyBlocks :=
    socket.close_keepsPorts.served fun vec => socket.close_sound lawful (Or.inl rfl) named
  have dropping : MemTriple (Served (some handle)) (socket.drop : NetM smol Unit)
    (fun _ => Served none) OnlyBlocks :=
    (socket.drop_keepsPorts inRange).served fun vec => socket.drop_sound lawful named
  refine .locked ((unwrapSocket_served found).bind fun value => .fixed ?_)
  rintro state ⟨rfl, rfl⟩
  refine .update_bind ((closing.startingAt (served.takeOut found named)).bind fun _ => ?_)
  exact .bind (.reply fun _ kept => kept) fun _ => dropping

theorem handleAccept_served (lawful : smol.Lawful) (served : Served none state) (errno : AxErrno)
    (layout : SocketAddrLayout) (id : UInt64) (can : state.CanServe layout (.accept id)) :
    Serves state (handleAccept errno id) := by
  obtain ⟨socket, found, -⟩ := NetState.AtSocket.found can
  obtain ⟨handle, named⟩ := served.handles _ _ found
  have inRange := served.ports.sockets _ _ found
  have leaving : MemTriple (Sound none state.socketVec) (socket.accept : NetM smol _)
      (TcpSocket.AcceptLeaves state.socketVec socket) Waits := socket.accept_sound lawful
  have accepting := MemTriple.both ((socket.accept_keepsPorts inRange).from served.ports) leaving
  refine .locked ((unwrapSocket_served found).bind fun value => .fixed ?_)
  rintro state ⟨rfl, rfl⟩
  refine .bind (accepting.weaken (fun _ same => ⟨same, same ▸ served.sound⟩) (fun _ _ kept => kept)
    fun _ both => onlyBlocks both.1 both.2) fun ans => .fixed ?_
  obtain ⟨outcome, self⟩ := ans
  rintro now ⟨⟨ports, -, accepted⟩, rfl, leaves⟩
  refine .update_bind ?_
  cases outcome with
  | error error =>
    refine .reply ?_
    rintro _ rfl
    have before := Served.of_parts ports leaves served.handles
    exact before.replace (leaves.table ▸ found) named named inRange
  | ok newSocket =>
    obtain ⟨connected, newHandle, newNamed, sound⟩ := leaves
    have before := Served.of_parts ports sound served.handles
    refine (allocSocketId_served
      (before.replace (sound.table ▸ found) named named inRange)).bind fun newId => ?_
    rw [TcpSocket.getLocalAddr, connected]
    exact (assignSlot_served newId newNamed (accepted newSocket rfl)).bind fun _ =>
      MemTriple.reply fun _ served => served

section Runs

variable (errno : AxErrno) (layout : SocketAddrLayout)

theorem handleRequest_served (lawful : smol.Lawful) (served : Served none state)
    (request : NetRequsetabel) (can : state.CanServe layout request) :
    Serves state (handleRequest errno layout request) := by
  cases request with
  | new => exact handleNew_served lawful served can
  | isNonBlocking id => exact handleIsNonBlocking_served served layout id can
  | bind id localAddr => exact handleBind_served served errno layout id localAddr can
  | send id buf bufLen => exact handleSend_served served errno layout id lawful buf bufLen can
  | recv id buf bufLen => exact handleRecv_served served errno layout id lawful buf bufLen can
  | recvTimeout id buf bufLen timeout => exact can.elim
  | connect id remoteAddr => exact handleConnect_served served errno layout id lawful remoteAddr can
  | listen id => exact handleListen_served served errno layout id can
  | accept id => exact handleAccept_served lawful served errno layout id can
  | close id => exact handleClose_served lawful served layout id can
  | setNonBlocking id isNonblocking =>
    exact handleSetNonBlocking_served served layout id isNonblocking can
  | shutdown id => exact handleShutdown_served served errno layout id lawful can

theorem handleAccept_replies (id : UInt64) : Replies 1 (handleAccept errno id : NetM smol Unit) := by
  refine Replies.locked ((unwrapSocket_disciplined id : Disciplined anyLock 0 _).replies.andThen
    fun socket =>
    (TcpSocket.accept_disciplined socket).replies.andThen fun ans => Replies.update.andThen fun _ => ?_)
  split
  · exact Replies.reply
  · refine allocSocketId_disciplined.replies.andThen fun newId => ?_
    split
    · exact Replies.stop
    · exact (assignSlot_disciplined newId _).replies.andThen fun _ => Replies.reply

theorem handleRequest_replies (request : NetRequsetabel) :
    Replies 1 (handleRequest errno layout request : NetM smol Unit) := by
  by_cases accepts : ∃ id, request = .accept id
  · obtain ⟨id, rfl⟩ := accepts
    exact handleAccept_replies errno id
  · exact (handleRequest_disciplined errno layout request fun id same => accepts ⟨id, same⟩).replies

def NetInput.arrive (input : NetInput) (state : NetState smol) : NetState smol :=
  { state with incoming := state.incoming ++ input.arrivals, page := input.message.page }

/-- The message is a request, it can be served, and the frames that arrive with
it are for ports that have a slot in the listen table and find room in the heap. -/
def NetInput.CanServe (input : NetInput) (state : NetState smol) : Prop :=
  ((∀ batch ∈ input.arrivals, batch.InRange smol) ∧
    (input.arrive state).RoomFor (input.arrive state).firstSegments) ∧
    ∃ request ∈ NetRequsetabel.tryFrom input.message.info input.message.regs,
      (input.arrive state).CanServe layout request

instance (input : NetInput) (state : NetState smol) : Decidable (input.CanServe layout state) :=
  inferInstanceAs (Decidable
    (_ ∧ ∃ request ∈ NetRequsetabel.tryFrom input.message.info input.message.regs, _))

theorem serve_served (lawful : smol.Lawful) (input : NetInput) :
    MemTriple (fun state => Served none state ∧ input.CanServe layout state)
      (serve errno layout input : NetM smol Unit) (fun _ => Served none) OnlyBlocks := by
  refine .fixed ?_
  rintro state ⟨served, ⟨arrivals, room⟩, request, decoded, can⟩
  have ports : PortsInvariant True 0 (input.arrive state) := by
    refine ⟨fun batch member => ?_, served.ports.sockets, served.ports.counter, fun _ => room⟩
    rcases List.mem_append.mp member with member | member
    · exact served.ports.frames batch member
    · exact arrivals batch member
  have sound : Sound none state.socketVec (input.arrive state) :=
    ⟨rfl, served.sound.exclusive, served.sound.queues, served.sound.counter⟩
  have handled := handleRequest_served errno layout lawful
    (Served.of_parts ports sound served.handles) request can
  rw [← handleMessage_of_tryFrom errno layout decoded] at handled
  refine .update_bind (.bind (.update_bind (handled.bind fun _ => ?_))
    fun _ => .pure fun _ served => served)
  refine .read_bind fun now served => .update_bind (.pure ?_)
  rintro _ rfl
  exact Served.of_parts (served.ports.update rfl rfl rfl (Nat.le_refl _))
    ⟨rfl, served.sound.exclusive, served.sound.queues, served.sound.counter⟩ served.handles

theorem serve_replies {input : NetInput} {request : NetRequsetabel}
    (decoded : NetRequsetabel.tryFrom input.message.info input.message.regs = some request) :
    Replies 1 (serve errno layout input : NetM smol Unit) := by
  refine Replies.update.andThen fun _ =>
    Replies.bind (Replies.update.andThen fun _ => Replies.bind ?_ fun _ =>
    Replies.read.andThen fun _ => Replies.update.andThen fun _ => Replies.pure) fun _ => Replies.pure
  rw [handleMessage_of_tryFrom errno layout decoded]
  exact handleRequest_replies errno layout request

end Runs

theorem init_served (smol : Smoltcp) : Served none (NetState.init smol) := by
  refine ⟨⟨nofun, fun _ _ => nofun, Nat.le_refl _, fun _ => Nat.zero_le _⟩,
    ⟨rfl, Exclusive.of_none fun owner key owned => ?_,
    fun _ _ => nofun, Nat.le_refl _⟩, fun _ _ => nofun⟩
  cases owner with
  | caller => cases owned
  | socket id =>
    obtain ⟨socket, found, -⟩ := owned
    cases found
  | listener slot =>
    obtain ⟨entry, listening, -⟩ := owned
    cases listening

/-- The run returned with as many replies, unless it waits for a frame that does not come. -/
structure RepliesSent (count : Nat) (result : EStateM.Result Fault (NetWorld smol) Unit) :
    Prop where
  returned : ∀ value world, result = .ok value world → world.sent.length = count
  stopped : ∀ fault world, result = .error fault world → fault = .blocked

/-- A run of requests that can be served gets one reply for each. -/
theorem every_request_replied (smol : Smoltcp) (lawful : smol.Lawful) (errno : AxErrno)
    (layout : SocketAddrLayout) (inputs : List NetInput)
    (met : MeetsAlong (serve errno layout) (fun input world => input.CanServe layout world.memory)
      inputs (NetWorld.init smol)) :
    RepliesSent inputs.length ((runAll (serve errno layout) inputs).run (NetWorld.init smol)) := by
  have kept : ∀ (input : NetInput) (count : Nat),
      Triple (fun world : NetWorld smol =>
          (world.sent.length = count ∧ Served none world.memory) ∧ input.CanServe layout world.memory)
        (serve errno layout input) (fun _ world => world.sent.length = count + 1 ∧ Served none world.memory)
        (fun fault _ => fault = .blocked) := by
    rintro input _ world ⟨⟨rfl, served⟩, can⟩
    obtain ⟨request, decoded, -⟩ := can.2
    have reached := ((serve_replies errno layout decoded world.sent).both
      (serve_served errno layout lawful input).triple) world
      ⟨rfl, served, can⟩
    cases outcome : (serve errno layout input : NetM smol Unit).run world with
    | ok value after =>
        rw [outcome] at reached
        obtain ⟨⟨new, one, sent⟩, served⟩ := reached
        exact ⟨by rw [sent, List.length_append, one], served⟩
    | error fault after =>
        rw [outcome] at reached
        exact reached.2
  have finished := runAll_invariant kept inputs 0
  have start : (((NetWorld.init smol).sent.length = 0 ∧ Served none (NetWorld.init smol).memory) ∧ _) :=
    ⟨⟨rfl, init_served smol⟩, met⟩
  refine ⟨fun value world ran => ?_, fun fault world ran => finished.of_fault start ran⟩
  rw [(finished.of_run start ran).1, Nat.zero_add]

def servingRun : List NetInput :=
  let page : Memory := Memory.store (fun _ => 0) 0 (taggedBytes ⟨.v4 (Vector.replicate 4 0), 80⟩)
  [.ofRequest .new none [], .ofRequest (.bind 0 0) (some page) [], .ofRequest (.listen 0) none [],
    .ofRequest (.accept 0) none [⟨[], [synFrame 80]⟩, ⟨[], [ackFrame 80]⟩],
      .ofRequest (.isNonBlocking 1) none [],
    .ofRequest (.setNonBlocking 1 1) none [], .ofRequest (.send 1 0 16) (some page) [],
    .ofRequest (.recv 1 0 16) (some page) [], .ofRequest (.shutdown 1) none [], .ofRequest (.close 1) none [],
    .ofRequest (.close 0) none []]

theorem every_request_replied_servingRun :
    RepliesSent servingRun.length ((runAll (serve .sequential .tagged) servingRun).run (NetWorld.init .small)) :=
  every_request_replied .small Smoltcp.small_lawful .sequential .tagged servingRun (by decide +kernel)

/-- A label that is no request gets no reply. A question about a slot that was never
allocated brings the net thread down, and so does a socket more than the heap holds. -/
theorem requests_not_replied :
    stopReason ((handleIpc .sequential .tagged ⟨⟨0x8, 0, 0, 0⟩, fun _ => 0, none⟩).run
      (NetWorld.init .small)) = none ∧
    (finalState ((handleIpc .sequential .tagged ⟨⟨0x8, 0, 0, 0⟩, fun _ => 0, none⟩).run
      (NetWorld.init .small))).sent = [] ∧
    stopReason ((serve .sequential .tagged (.ofRequest (.isNonBlocking 0) none [])).run (NetWorld.init .small)) =
      some (.panicked (.socketVecIndex 0)) ∧
    stopReason ((runAll (serve .sequential .tagged) (List.replicate 129 (.ofRequest .new none []))).run
      (NetWorld.init .small)) = some (.panicked .outOfMemory) := by
  decide +kernel

end RootTaskDemo.Net
