import RootTaskDemo.Net.Listeners
import RootTaskDemo.Net.Serving

namespace RootTaskDemo.Net

open Common Lib Thread

variable {smol : Smoltcp} {α : Type} {strict : Prop} {state : NetState smol}
variable {closed : Option Nat}

/-! Where the handles of the socket set are, after any requests: each one is held
by one socket of the table or waits in one queue of the listen table. -/

def NetState.HeldAt (state : NetState smol) (handle : SocketHandle) : Prop :=
  ∃ (id : Nat) (socket : TcpSocket), state.socketVec[id]? = some (some socket) ∧ socket.handle =
    some handle

/-- The state between two steps of a request that holds the handle. In a `strict`
account no handle of the set is left over. -/
structure Owned (strict : Prop) (held : Option SocketHandle) (state : NetState smol) : Prop where
  sound : Sound held state.socketVec state
  named : Named state.socketVec
  complete : strict → ∀ handle ∈ state.sockets, held = some handle ∨ state.HeldAt handle ∨
    state.Queued handle
  bounded : state.QueuesBounded

theorem Waits.notMissing {fault : Fault} (waits : Waits fault) : NotMissing fault := by
  rintro handle rfl
  rcases waits with impossible | ⟨port, impossible⟩ | impossible <;> cases impossible

namespace Owned

variable {strict : Prop} {held taken : Option SocketHandle} {state now : NetState smol} {id : Nat}
  {socket socket' : TcpSocket} {handle : SocketHandle}

theorem after (owned : Owned strict held state) (sound : Sound taken state.socketVec now)
    (tame : Tame state now) (accounted : strict → Accounted taken state now)
    (kept : ∀ handle ∈ now.sockets, held = some handle → taken = some handle) :
    Owned strict taken now := by
  obtain ⟨socketVec, sockets, listenTable, curr, incoming, page⟩ := now
  obtain rfl : socketVec = state.socketVec := tame.table
  refine ⟨sound, owned.named, fun all handle member => ?_, tame.bounded owned.bounded⟩
  rcases accounted all handle member with same | queued | ⟨older, outside⟩
  · exact Or.inl same
  · exact Or.inr (Or.inr queued)
  · rcases owned.complete all handle older with mine | heldAt | queued
    · exact Or.inl (kept handle member mine)
    · exact Or.inr (Or.inl heldAt)
    · exact absurd queued outside

theorem of_vec {vec : List (Option TcpSocket)} (owned : Owned strict taken state)
    (sound : Sound held vec { state with socketVec := vec }) (named : Named vec)
    (complete : ∀ handle ∈ state.sockets, taken = some handle ∨ state.HeldAt handle →
      held = some handle ∨ ∃ (id : Nat) (socket : TcpSocket), vec[id]? = some (some socket) ∧
      socket.handle = some handle) :
    Owned strict held { state with socketVec := vec } := by
  refine ⟨sound, named, fun all handle member => ?_, owned.bounded⟩
  rcases owned.complete all handle member with same | heldAt | queued
  · exact (complete handle member (Or.inl same)).imp_right Or.inl
  · exact (complete handle member (Or.inr heldAt)).imp_right Or.inl
  · exact Or.inr (Or.inr queued)

theorem replace (owned : Owned strict held state)
    (found : state.socketVec[id]? = some (some socket)) (same : socket'.handle = socket.handle) :
    Owned strict held { state with socketVec := state.socketVec.set id (some socket') } := by
  obtain ⟨handle, named⟩ := owned.named id socket found
  have named' : socket'.handle = some handle := same.trans named
  refine owned.of_vec (owned.sound.replace found named named') (owned.named.set id ?_) ?_
  · rintro _ ⟨rfl⟩
    exact ⟨handle, named'⟩
  · rintro key member (mine | ⟨other, stored, lookup, keyed⟩)
    · exact Or.inl mine
    · by_cases here : id = other
      · subst here
        obtain rfl : socket = stored := Option.some.inj (Option.some.inj (found.symm.trans lookup))
        have inside : id < state.socketVec.length := (List.getElem?_eq_some_iff.mp found).1
        exact Or.inr ⟨id, socket', List.getElem?_set_self inside, same.trans keyed⟩
      · exact Or.inr ⟨other, stored, by rw [List.getElem?_set_ne here, lookup], keyed⟩

theorem store (owned : Owned strict (some handle) state) (free : state.socketVec[id]? = some none)
    (named : socket.handle = some handle) :
    Owned strict none { state with socketVec := state.socketVec.set id (some socket) } := by
  have inside : id < state.socketVec.length := (List.getElem?_eq_some_iff.mp free).1
  refine owned.of_vec (owned.sound.store named) (owned.named.set id ?_) ?_
  · rintro _ ⟨rfl⟩
    exact ⟨handle, named⟩
  · rintro key member (mine | ⟨other, stored, lookup, keyed⟩)
    · exact Or.inr ⟨id, socket, List.getElem?_set_self inside, named.trans mine⟩
    · refine Or.inr ⟨other, stored, ?_, keyed⟩
      rw [List.getElem?_set_ne, lookup]
      rintro rfl
      rw [free] at lookup
      cases lookup

theorem takeOut (owned : Owned strict none state)
    (found : state.socketVec[id]? = some (some socket)) (named : socket.handle = some handle) :
    Owned strict (some handle) { state with socketVec := state.socketVec.set id none } := by
  refine owned.of_vec (owned.sound.takeOut found named) (owned.named.set id nofun) ?_
  rintro key member (impossible | ⟨other, stored, lookup, keyed⟩)
  · cases impossible
  · by_cases here : id = other
    · subst here
      obtain rfl : socket = stored := Option.some.inj (Option.some.inj (found.symm.trans lookup))
      exact Or.inl (named.symm.trans keyed)
    · exact Or.inr ⟨other, stored, by rw [List.getElem?_set_ne here, lookup], keyed⟩

theorem push (owned : Owned strict held state) :
    Owned strict held { state with socketVec := state.socketVec ++ [none] } := by
  refine owned.of_vec owned.sound.push
    (fun id socket found => owned.named id socket (found_of_push found)) ?_
  rintro key member (mine | ⟨other, stored, lookup, keyed⟩)
  · exact Or.inl mine
  · have inside : other < state.socketVec.length := (List.getElem?_eq_some_iff.mp lookup).1
    exact Or.inr ⟨other, stored, by rw [List.getElem?_append_left inside, lookup], keyed⟩

end Owned

def NetState.ConnectingAt (state : NetState smol) (id : Nat) : Prop :=
  ∃ socket : TcpSocket, state.socketVec[id]? = some (some socket) ∧ socket.state = .connecting

def KeepsConnecting (closed : Option Nat) (before after : NetState smol) : Prop :=
  ∀ id, closed ≠ some id → before.ConnectingAt id → after.ConnectingAt id

theorem KeepsConnecting.of_table {before after : NetState smol}
    (table : after.socketVec = before.socketVec) : KeepsConnecting closed before after := by
  rintro id - ⟨socket, found, connecting⟩
  exact ⟨socket, by rw [table, found], connecting⟩

theorem KeepsConnecting.set {before after : NetState smol} {id : Nat} {slot : Option TcpSocket}
    (table : after.socketVec = before.socketVec.set id slot)
    (kept : closed ≠ some id → ∀ socket, before.socketVec[id]? = some (some socket) → socket.state =
      .connecting → ∃ socket', slot = some socket' ∧ socket'.state = .connecting) :
    KeepsConnecting closed before after := by
  rintro other open_ ⟨socket, found, connecting⟩
  by_cases here : id = other
  · subst here
    obtain ⟨socket', rfl, connecting'⟩ := kept open_ socket found connecting
    have inside : id < before.socketVec.length := (List.getElem?_eq_some_iff.mp found).1
    exact ⟨socket', by rw [table, List.getElem?_set_self inside], connecting'⟩
  · exact ⟨socket, by rw [table, List.getElem?_set_ne here, found], connecting⟩

theorem KeepsConnecting.trans {first second third : NetState smol}
    (left : KeepsConnecting closed first second) (right : KeepsConnecting closed second third) :
    KeepsConnecting closed first third :=
  fun id open_ connecting => right id open_ (left id open_ connecting)

structure Works (state : NetState smol) (socket after : TcpSocket) (now : NetState smol) : Prop where
  sound : Sound none state.socketVec now
  tame : Tame state now
  accounted : Accounted none state now
  handle : after.handle = socket.handle
  connecting : socket.state = .connecting → after.state = .connecting

section Operations

variable {state : NetState smol} {socket : TcpSocket} {handle : SocketHandle}

theorem Works.unchanged (sound : Sound none state.socketVec state) {after : TcpSocket}
    (same : after.handle = socket.handle) (connecting : after.state = socket.state) :
    Works state socket after state :=
  ⟨sound, (refl_of Quiet state).toTame, (refl_of Quiet state).accounted, same, connecting.trans⟩

theorem works_of_parts {program : NetM smol (α × TcpSocket)} {raised : Fault → Prop}
    (named : socket.handle = some handle) (sound : Sound none state.socketVec state)
    (keeps : KeepsHandle none state.socketVec handle program)
    (frame : RunFrom state program (fun _ now => Tame state now ∧ Accounted none state now) raised)
    (refused : socket.state = .connecting → ∃ value, program = pure (value, socket)) :
    RunFrom state program (fun result now => Works state socket result.2 now) Waits := by
  by_cases connecting : socket.state = .connecting
  · obtain ⟨value, same⟩ := refused connecting
    rw [same]
    refine .pure ?_
    rintro _ rfl
    exact Works.unchanged sound rfl rfl
  · refine ((MemTriple.startingAt keeps sound).also (frame.partly fun _ _ holds => holds)).mono ?_
    rintro result now ⟨⟨sound, same⟩, tame, accounted⟩
    exact ⟨sound, tame, accounted, same.trans named.symm, fun impossible => absurd impossible connecting⟩

theorem Quietly.frame {good : α → Prop} {program : NetM smol α} (quietly : Quietly good program)
    (state : NetState smol) :
    Yields state program fun _ now => Tame state now ∧ Accounted none state now :=
  (quietly.start state).mono fun _ _ holds => ⟨holds.1.toTame, holds.1.accounted⟩

namespace TcpSocket

theorem updateState_refused {expect next : SocketState}
    {f : TcpSocket → NetM smol (AxResult α × TcpSocket)} {self : TcpSocket}
    (other : self.state ≠ expect) :
    self.updateState expect next f = pure (.error self.state, self) := if_neg other

variable (lawful : smol.Lawful) (sound : Sound none state.socketVec state)
  (named : socket.handle = some handle)
  (holds : Holds none state.socketVec handle)
include lawful sound named holds

omit lawful in
theorem bind_works (localAddr : SocketAddr) :
    RunFrom state (socket.bind localAddr) (fun result now => Works state socket result.2 now) Waits := by
  refine works_of_parts named sound (socket.bind_keepsHandle holds named localAddr)
    ((socket.bind_quietly named localAddr).frame state) fun connecting => ⟨.error .invalidInput, ?_⟩
  rw [bind, updateState_refused (by rw [connecting]; exact nofun), pure_bind]

theorem connect_works (remoteAddr : SocketAddr) :
    RunFrom state (socket.connect remoteAddr) (fun result now => Works state socket result.2 now) Waits := by
  refine works_of_parts named sound (socket.connect_keepsHandle lawful holds named remoteAddr)
    ((socket.connect_quietly named remoteAddr).frame state) fun connecting => ⟨.error .alreadyExists, ?_⟩
  rw [connect, updateState_refused (by rw [connecting]; exact nofun), pure_bind]

omit lawful holds in
theorem listen_works :
    RunFrom state socket.listen (fun result now => Works state socket result.2 now) Waits := by
  have frame : Yields state socket.listen fun _ now => Tame state now ∧ Accounted none state now :=
    (socket.listen_enlists state).mono fun _ _ enlists => ⟨enlists.tame, enlists.accounted⟩
  refine works_of_parts named sound (socket.listen_keepsHandle named) frame fun connecting =>
    ⟨.ok (), ?_⟩
  rw [listen, updateState_refused (by rw [connecting]; exact nofun), pure_bind]

theorem shutdown_works :
    RunFrom state socket.shutdown (fun result now => Works state socket result.2 now) Waits := by
  have frame : Yields state socket.shutdown fun _ now => Tame state now ∧ Accounted none state now :=
    (socket.shutdown_unlists named state).mono fun _ _ spec => ⟨spec.1.tame, spec.1.accounted⟩
  refine works_of_parts named sound (socket.shutdown_keepsHandle lawful holds named) frame
    fun connecting => ⟨.ok (), ?_⟩
  rw [shutdown, updateState_refused (by rw [connecting]; exact nofun), pure_bind]
  dsimp only
  rw [updateState_refused (by rw [connecting]; exact nofun), pure_bind]

theorem onConnected_works (once : smol.Socket → AxResult α × smol.Socket) :
    RunFrom state (socket.onConnected once) (fun result now => Works state socket result.2 now) Waits :=
  works_of_parts named sound (socket.onConnected_keepsHandle lawful holds named _)
    ((socket.onConnected_quietly _).frame state)
    fun connecting => ⟨.error .wouldBlock, if_pos connecting⟩

end TcpSocket

end Operations

def Handled (strict : Prop) (closed : Option Nat) (state now : NetState smol) : Prop :=
  Owned strict none now ∧ KeepsConnecting closed state now

/-- No handle goes missing, and a connection under way stays so. -/
abbrev Handling (strict : Prop) (closed : Option Nat) (state : NetState smol)
    (program : NetM smol α) : Prop :=
  RunFrom state program (fun _ now => Handled strict closed state now) NotMissing

section Requests

variable {strict : Prop} {state : NetState smol} (owned : Owned strict none state) (errno : AxErrno)
  (layout : SocketAddrLayout) (id : UInt64)
include owned

theorem onSocket_handled {request : TcpSocket → NetM smol (List UInt64 × TcpSocket)}
    (body : ∀ socket handle, socket.handle = some handle → Holds none state.socketVec handle →
      RunFrom state (request socket) (fun result now => Works state socket result.2 now) NotMissing) :
    Handling strict none state (onSocket id request) := by
  refine .locked (((unwrapSocket_spec state id).onStop fun _ stop => stop.1).bind fun socket =>
    .fixed ?_)
  rintro state ⟨rfl, found⟩
  obtain ⟨handle, named⟩ := owned.named _ _ found
  refine (body socket handle named (Or.inr ⟨_, socket, found, named⟩)).bind fun result =>
    MemTriple.bind (.update ?_) fun _ => .reply fun _ handled => handled
  intro now works
  have lookup : now.socketVec[id.toNat]? = some (some socket) := by rw [works.tame.table, found]
  refine ⟨(owned.after works.sound works.tame (fun _ => works.accounted) nofun).replace lookup
    works.handle, ?_⟩
  refine KeepsConnecting.set (congrArg (List.set · id.toNat (some result.2)) works.tame.table) ?_
  intro _ other stored connecting
  obtain rfl : socket = other := Option.some.inj (Option.some.inj (found.symm.trans stored))
  exact ⟨result.2, rfl, works.connecting connecting⟩

theorem handleBind_handled (localAddr : UInt64) :
    Handling strict none state (handleBind errno layout id localAddr) := by
  refine onSocket_handled owned id fun socket handle named holds => ?_
  refine .bind ((readItem_spec layout state localAddr).weaken (fun _ same => same)
    (fun _ _ spec => spec.1) fun _ stop => stop.1) fun addr => ?_
  refine .bind ((TcpSocket.bind_works owned.sound named holds addr).onStop
      fun _ => Waits.notMissing) fun _ => .pure fun _ works => works

theorem handleListen_handled :
    Handling strict none state (handleListen errno id) := by
  refine onSocket_handled owned id fun socket handle named _ => ?_
  refine .bind ((TcpSocket.listen_works owned.sound named).onStop
      fun _ => Waits.notMissing) fun _ => .pure fun _ works => works

theorem handleSetNonBlocking_handled (isNonblocking : UInt64) :
    Handling strict none state (handleSetNonBlocking id isNonblocking) := by
  refine onSocket_handled owned id fun socket handle named _ => .pure ?_
  rintro _ rfl
  exact Works.unchanged owned.sound rfl rfl

theorem handleRecvTimeout_handled (buf bufLen timeout : UInt64) :
    Handling strict none state (handleRecvTimeout id buf bufLen timeout) :=
  onSocket_handled owned id fun _ _ _ _ =>
    ((slicePage_spec state buf bufLen).onStop fun _ stop => stop.1).bind fun _ =>
    panicWith_triple fun _ _ _ => nofun

theorem handleIsNonBlocking_handled :
    Handling strict none state (handleIsNonBlocking id) := by
  refine .locked (.bind ((socketSlot_spec state id.toNat).onStop fun _ stop => stop.1) fun slot =>
    .reply ?_)
  rintro _ ⟨rfl, -⟩
  exact ⟨owned, KeepsConnecting.of_table rfl⟩

variable (lawful : smol.Lawful)
include lawful

theorem handleConnect_handled (remoteAddr : UInt64) :
    Handling strict none state (handleConnect errno layout id remoteAddr) := by
  refine onSocket_handled owned id fun socket handle named holds => ?_
  refine .bind ((readItem_spec layout state remoteAddr).weaken (fun _ same => same)
    (fun _ _ spec => spec.1) fun _ stop => stop.1) fun addr => ?_
  refine .bind ((TcpSocket.connect_works lawful owned.sound named holds addr).onStop
      fun _ => Waits.notMissing) fun _ => .pure fun _ works => works

theorem handleShutdown_handled :
    Handling strict none state (handleShutdown errno id) := by
  refine onSocket_handled owned id fun socket handle named holds => ?_
  refine .bind ((TcpSocket.shutdown_works lawful owned.sound named holds).onStop
      fun _ => Waits.notMissing) fun _ => .pure fun _ works => works

theorem handleSend_handled (buf bufLen : UInt64) :
    Handling strict none state (handleSend errno id buf bufLen) := by
  refine onSocket_handled owned id fun socket handle named holds =>
    ((slicePage_spec state buf bufLen).onStop fun _ stop => stop.1).bind fun page => ?_
  refine .bind ((TcpSocket.onConnected_works lawful owned.sound named holds _).onStop
      fun _ => Waits.notMissing) fun _ => .pure fun _ works => works

theorem handleRecv_handled (buf bufLen : UInt64) :
    Handling strict none state (handleRecv errno id buf bufLen) := by
  refine onSocket_handled owned id fun socket handle named holds =>
    ((slicePage_spec state buf bufLen).onStop fun _ stop => stop.1).bind fun page => ?_
  refine .bind ((TcpSocket.onConnected_works lawful owned.sound named holds _).onStop
      fun _ => Waits.notMissing) fun ans => ?_
  split
  · exact .pure fun _ works => works
  · refine .bind (.update fun now works => ?_) fun _ => .pure fun _ works => works
    exact ⟨⟨works.sound.table, works.sound.exclusive, works.sound.queues, works.sound.counter⟩,
      ⟨works.tame.table, works.tame.counter, works.tame.bounded⟩, works.accounted, works.handle, works.connecting⟩

end Requests

theorem allocSocketId_owned {held : Option SocketHandle} (owned : Owned strict held state) :
    RunFrom state (allocSocketId : NetM smol Nat)
      (fun id now => (Owned strict held now ∧ now.socketVec[id]? = some none) ∧
        KeepsConnecting none state now) NotMissing := by
  refine (allocSocketId_spec state).weaken (fun _ same => same) ?_ nofun
  rintro id now ⟨free, rfl | rfl⟩
  · exact ⟨⟨owned, free⟩, KeepsConnecting.of_table rfl⟩
  · refine ⟨⟨owned.push, free⟩, ?_⟩
    rintro other - ⟨socket, found, connecting⟩
    have inside : other < state.socketVec.length := (List.getElem?_eq_some_iff.mp found).1
    exact ⟨socket, (List.getElem?_append_left inside).trans found, connecting⟩

theorem assignSlot_owned {handle : SocketHandle} (owned : Owned strict (some handle) state)
    {id : Nat} (free : state.socketVec[id]? = some none) {socket : TcpSocket}
    (named : socket.handle = some handle) :
    Handling strict none state (assignSlot id socket) := by
  refine (assignSlot_spec free socket).weaken (fun _ same => same) ?_ nofun
  rintro _ _ rfl
  refine ⟨owned.store free named, KeepsConnecting.set rfl fun _ other stored _ => ?_⟩
  rw [free] at stored
  cases stored

theorem handleNew_handled (lawful : smol.Lawful) (owned : Owned strict none state) :
    Handling strict none state (handleNew : NetM smol Unit) := by
  have created : RunFrom state (TcpSocket.new : NetM smol _)
      (fun socket now => (∃ handle, socket.handle = some handle ∧ Owned strict (some handle) now) ∧
        KeepsConnecting none state now) NotMissing := by
    have adding := ((TcpSocket.new_sound lawful).startingAt owned.sound).also (TcpSocket.new_adds state)
    refine adding.weaken (fun _ same => same) ?_ fun _ => Waits.notMissing
    rintro socket now ⟨⟨handle, named, sound⟩, tame, -, -, handle', named', accounted⟩
    cases named.symm.trans named'
    exact ⟨⟨handle, named, owned.after sound tame (fun _ => accounted) nofun⟩,
      KeepsConnecting.of_table tame.table⟩
  refine created.bind fun socket => .fixed ?_
  rintro now ⟨⟨handle, named, holding⟩, before⟩
  refine (allocSocketId_owned holding).bind fun id => .fixed ?_
  rintro middle ⟨⟨holding, free⟩, during⟩
  refine .bind (.locked (assignSlot_owned holding free named)) fun _ => .reply fun after handled => ?_
  exact ⟨handled.1, before.trans (during.trans handled.2)⟩

theorem handleClose_handled (lawful : smol.Lawful) (owned : Owned strict none state) (id : UInt64) :
    Handling strict (some id.toNat) state (handleClose id) := by
  refine .locked (((unwrapSocket_spec state id).onStop fun _ stop => stop.1).bind fun socket =>
    .fixed ?_)
  rintro state ⟨rfl, found⟩
  obtain ⟨handle, named⟩ := owned.named _ _ found
  have taken := owned.takeOut found named
  have mine : Holds (some handle) (state.socketVec.set id.toNat none) handle := Or.inl rfl
  have closing := (MemTriple.startingAt (socket.close_sound lawful mine named) taken.sound).also
    (socket.close_quiet _)
  have dropping : MemTriple (fun now => Sound (some handle) (state.socketVec.set id.toNat none) now ∧
        Quiet { state with socketVec := state.socketVec.set id.toNat none } now) socket.drop
      (fun _ now => Handled strict (some id.toNat) state now) NotMissing := by
    refine .fixed ?_
    rintro middle ⟨sound, quiet⟩
    have holding := taken.after sound quiet.toTame
      (fun _ handle member => Or.inr ((quiet.accounted handle member).resolve_left nofun)) fun _ _ same => same
    have dropping := ((socket.drop_sound lawful named).startingAt holding.sound).also
      (socket.drop_unlists named middle)
    refine dropping.weaken (fun _ same => same) ?_ fun _ => Waits.notMissing
    rintro _ now ⟨sound, unlists, gone⟩
    refine ⟨holding.after sound unlists.tame (fun _ => unlists.accounted) fun other member same => ?_, ?_⟩
    · cases same
      exact absurd member gone
    · exact KeepsConnecting.set (unlists.tame.table.trans quiet.toTame.table) fun open_ => absurd rfl open_
  exact .update_bind (.bind (closing.onStop fun _ =>
    Waits.notMissing) fun _ => .bind (.reply fun _ spec => spec) fun _ => dropping)

theorem handleAccept_handled (lawful : smol.Lawful) (owned : Owned strict none state)
    (errno : AxErrno) (id : UInt64)
    (live : strict → ∀ socket ∈ state.socketVec[id.toNat]?.join, socket.takesReset state = false) :
    Handling strict none state (handleAccept errno id) := by
  refine .locked (((unwrapSocket_spec state id).onStop fun _ stop => stop.1).bind fun socket =>
    .fixed ?_)
  rintro state ⟨rfl, found⟩
  have leaving : MemTriple (Sound none state.socketVec) (socket.accept : NetM smol _)
      (TcpSocket.AcceptLeaves state.socketVec socket) Waits := socket.accept_sound lawful
  have accepting := ((leaving.startingAt owned.sound).also (socket.accept_accepts state)).also
    (socket.accept_reset_spec state)
  refine .bind (accepting.onStop fun _ => Waits.notMissing)
    fun ans => .fixed ?_
  obtain ⟨outcome, self⟩ := ans
  rintro now ⟨⟨⟨rfl, leaves⟩, accepts⟩, reset⟩
  have kept : strict → outcome ≠ .error .connectionReset := by
    intro all failed
    have unreset := live all self (by rw [found]; rfl)
    rw [reset failed] at unreset
    cases unreset
  have lookup : now.socketVec[id.toNat]? = some (some self) := by rw [accepts.tame.table, found]
  -- the listener is stored back as it was
  have stored : ∀ {held}, Owned strict held now →
      Owned strict held { now with socketVec := now.socketVec.set id.toNat (some self) } ∧
        KeepsConnecting none state { now with socketVec := now.socketVec.set id.toNat (some self) } := by
    refine fun holding => ⟨holding.replace lookup rfl, ?_⟩
    refine KeepsConnecting.set (congrArg (List.set · id.toNat (some self)) accepts.tame.table)
      fun _ other same connecting => ?_
    obtain rfl : self = other := Option.some.inj (Option.some.inj (found.symm.trans same))
    exact ⟨self, rfl, connecting⟩
  refine .update_bind ?_
  cases outcome with
  | error error =>
    refine .reply ?_
    rintro _ rfl
    exact stored (owned.after leaves accepts.tame (fun all => accepts.accounted (kept all)) nofun)
  | ok newSocket =>
    obtain ⟨connected, newHandle, newNamed, sound⟩ := leaves
    have holding := stored (owned.after sound accepts.tame
      (fun all => newNamed ▸ accepts.accounted (kept all)) nofun)
    refine (allocSocketId_owned holding.1).bind fun newId => .fixed ?_
    rintro middle ⟨⟨owning, free⟩, during⟩
    rw [TcpSocket.getLocalAddr, connected]
    refine .bind (assignSlot_owned owning free newNamed) fun _ => .reply fun after handled => ?_
    exact ⟨handled.1, holding.2.trans (during.trans handled.2)⟩

/-- An accept takes no connection that was reset while it was queued. -/
def NetState.AcceptsLive (state : NetState smol) : NetRequsetabel → Prop
  | .accept id => ∀ socket ∈ state.socketVec[id.toNat]?.join, socket.takesReset state = false
  | _ => True

instance (state : NetState smol) : DecidablePred state.AcceptsLive
  | .accept id => inferInstanceAs (Decidable (∀ socket ∈ state.socketVec[id.toNat]?.join, _))
  | .new | .isNonBlocking _ | .bind _ _ | .send _ _ _ | .recv _ _ _ | .recvTimeout _ _ _ _ | .connect _ _ | .listen _
  | .close _ | .setNonBlocking _ _ | .shutdown _ => isTrue trivial

def closedSlot : NetRequsetabel → Option Nat
  | .close id => some id.toNat
  | _ => none

section Runs

variable (errno : AxErrno) (layout : SocketAddrLayout)

theorem handleRequest_handled (lawful : smol.Lawful) (owned : Owned strict none state)
    (request : NetRequsetabel) (live : strict → state.AcceptsLive request) :
    Handling strict (closedSlot request) state (handleRequest errno layout request) := by
  cases request with
  | new => exact handleNew_handled lawful owned
  | isNonBlocking id => exact handleIsNonBlocking_handled owned id
  | bind id localAddr => exact handleBind_handled owned errno layout id localAddr
  | send id buf bufLen => exact handleSend_handled owned errno id lawful buf bufLen
  | recv id buf bufLen => exact handleRecv_handled owned errno id lawful buf bufLen
  | recvTimeout id buf bufLen timeout => exact handleRecvTimeout_handled owned id buf bufLen timeout
  | connect id remoteAddr => exact handleConnect_handled owned errno layout id lawful remoteAddr
  | listen id => exact handleListen_handled owned errno id
  | accept id => exact handleAccept_handled lawful owned errno id live
  | close id => exact handleClose_handled lawful owned id
  | setNonBlocking id isNonblocking => exact handleSetNonBlocking_handled owned id isNonblocking
  | shutdown id => exact handleShutdown_handled owned errno id lawful

/-- The accept that the message may ask for takes no connection that was reset. -/
def NetInput.AcceptsLive (input : NetInput) (state : NetState smol) : Prop :=
  ∀ request ∈ NetRequsetabel.tryFrom input.message.info input.message.regs,
    (input.arrive state).AcceptsLive request

instance (input : NetInput) (state : NetState smol) : Decidable (input.AcceptsLive state) :=
  Option.decidableForallMem (NetRequsetabel.tryFrom input.message.info input.message.regs)

def NetInput.closedSlot (input : NetInput) : Option Nat :=
  (NetRequsetabel.tryFrom input.message.info input.message.regs).bind Net.closedSlot

theorem serve_handled (lawful : smol.Lawful) (input : NetInput)
    (owned : Owned strict none state) (live : strict → input.AcceptsLive state) :
    Handling strict input.closedSlot state (serve errno layout input) := by
  have arrived : Owned strict none (input.arrive state) :=
    ⟨⟨rfl, owned.sound.exclusive, owned.sound.queues, owned.sound.counter⟩, owned.named,
      owned.complete, owned.bounded⟩
  have handled : RunFrom (input.arrive state) (handleMessage errno layout input.message)
      (fun _ now => Handled strict input.closedSlot state now) NotMissing := by
    unfold handleMessage
    split
    · exact panicWith_triple fun _ _ _ => nofun
    · cases decoded : NetRequsetabel.tryFrom input.message.info input.message.regs with
      | none =>
        refine .pure ?_
        rintro _ rfl
        exact ⟨arrived, KeepsConnecting.of_table rfl⟩
      | some request =>
        rw [NetInput.closedSlot, decoded, Option.bind_some]
        exact handleRequest_handled errno layout lawful arrived request fun all => live all request decoded
  refine .update_bind (.bind (.update_bind (handled.bind fun _ => ?_))
    fun _ => .pure fun _ handled => handled)
  refine .read_bind fun now handled => .update_bind (.pure ?_)
  rintro _ rfl
  obtain ⟨owned, connecting⟩ := handled
  exact ⟨⟨⟨rfl, owned.sound.exclusive, owned.sound.queues, owned.sound.counter⟩, owned.named,
    owned.complete,
    owned.bounded⟩, connecting.trans (KeepsConnecting.of_table rfl)⟩

end Runs

theorem init_owned (strict : Prop) (smol : Smoltcp) : Owned strict none (NetState.init smol) :=
  ⟨(init_served smol).sound, (init_served smol).handles, fun _ _ member =>
    absurd member Std.TreeMap.not_mem_emptyc, fun _ _ => nofun⟩

/-- The handles of the set are those that the sockets hold and those that wait in
the queues, each of them once. -/
structure NetState.HandlesOwned (state : NetState smol) : Prop where
  union : ∀ handle, handle ∈ state.sockets ↔ state.HeldAt handle ∨ state.Queued handle
  disjoint : ∀ handle, ¬ (state.HeldAt handle ∧ state.Queued handle)
  heldOnce : ∀ (id id' : Nat) (socket socket' : TcpSocket) (handle : SocketHandle),
    state.socketVec[id]? = some (some socket) → socket.handle = some handle →
      state.socketVec[id']? = some (some socket') → socket'.handle = some handle → id = id'
  queuedOnce : ∀ (slot slot' : Fin portNum) (entry entry' : ListenTableEntry) (handle : SocketHandle),
    state.listenTable slot = some entry → handle ∈ entry.synQueue →
      state.listenTable slot' = some entry' → handle ∈ entry'.synQueue → slot = slot'
  nodup : ∀ slot entry, state.listenTable slot = some entry → entry.synQueue.Nodup
  bounded : ∀ slot entry, state.listenTable slot = some entry → entry.synQueue.length ≤ listenQueueSize

theorem Owned.handlesOwned (owned : Owned True none state) : state.HandlesOwned := by
  have exclusive := owned.sound.exclusive
  have holder : ∀ {handle}, state.HeldAt handle → ∃ id,
    Owns none state.socketVec state.listenTable (.socket id) handle :=
    fun ⟨id, socket, found, keyed⟩ => ⟨id, socket, found, keyed⟩
  have waiter : ∀ {handle}, state.Queued handle → ∃ slot,
    Owns none state.socketVec state.listenTable (.listener slot) handle :=
    fun ⟨slot, entry, listening, queued⟩ => ⟨slot, entry, listening, queued⟩
  refine ⟨fun handle => ⟨fun member => (owned.complete trivial handle member).resolve_left nofun,
    ?_⟩, ?_, ?_, ?_,
    owned.sound.queues, owned.bounded⟩
  · rintro (held | queued)
    · obtain ⟨id, owns⟩ := holder held
      exact exclusive.live _ handle owns
    · obtain ⟨slot, owns⟩ := waiter queued
      exact exclusive.live _ handle owns
  · rintro handle ⟨held, queued⟩
    obtain ⟨id, owns⟩ := holder held
    obtain ⟨slot, owns'⟩ := waiter queued
    cases exclusive.unique _ _ handle owns owns'
  · intro id id' socket socket' handle found keyed found' keyed'
    exact Owner.socket.inj (exclusive.unique (.socket id) (.socket id') handle
      ⟨socket, found, keyed⟩ ⟨socket', found', keyed'⟩)
  · intro slot slot' entry entry' handle listening queued listening' queued'
    exact Owner.listener.inj (exclusive.unique (.listener slot) (.listener slot') handle
      ⟨entry, listening, queued⟩
      ⟨entry', listening', queued'⟩)

/-- The run ends in a state whose handles are accounted for, or stops for another
reason than a handle that is not in the set. -/
structure KeepsHandles (result : EStateM.Result Fault (NetWorld smol) Unit) : Prop where
  returned : ∀ value world, result = .ok value world → world.memory.HandlesOwned
  stopped : ∀ fault world, result = .error fault world → NotMissing fault

end RootTaskDemo.Net
