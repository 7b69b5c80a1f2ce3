import RootTaskDemo.Lib.Directory
import RootTaskDemo.Net.PortRuns
import RootTaskDemo.Net.Quiet

namespace RootTaskDemo.Net

open Common Lib Thread

variable {smol : Smoltcp} {α : Type} {self : TcpSocket}
variable {vec : List (Option TcpSocket)}

/-! The listen table as a directory of the sockets that listen: whatever is called
on whichever socket, a slot is taken exactly when one socket listens there. -/

theorem ListenTable.listen_spec (listenEndpoint : IpListenEndpoint) (state : NetState smol) :
    Yields state (ListenTable.listen listenEndpoint)
      fun result now => match result with
        | .ok () => (Tame state now ∧ Accounted none state now) ∧ state.listener listenEndpoint.port.toNat = none ∧
            now.listener = Function.update state.listener listenEndpoint.port.toNat (some listenEndpoint)
        | .error _ => now = state := by
  unfold ListenTable.listen ListenTable.lockSlot
  split
  · exact panicWith_triple fun _ _ => trivial
  · split
    · rename_i inside
      refine .locked (.read_bind ?_)
      rintro state rfl
      split
      · rename_i free
        have vacant := Option.isNone_iff_eq_none.mp free
        refine .update_bind (.pure ?_)
        rintro _ rfl
        refine ⟨⟨⟨rfl, id, fun bounded => bounded_setEntry bounded ?_⟩, fun handle member => ?_⟩,
          (isNone_listenTable state inside).mp free, listener_setEntry ..⟩
        · rintro changed ⟨rfl⟩
          exact Nat.zero_le _
        · by_cases queued : state.Queued handle
          · obtain ⟨other, entry, listening, waiting⟩ := queued
            refine Or.inr (Or.inl (queued_setEntry.mpr (Or.inr ⟨other, entry, ?_, listening, waiting⟩)))
            rintro rfl
            rw [vacant] at listening
            cases listening
          · exact Or.inr (Or.inr ⟨member, queued⟩)
      · exact .pure fun _ same => same
    · exact panicWith_triple fun _ _ => trivial

theorem dropQueue_spec (queue : List SocketHandle) (state : NetState smol) :
    Yields state (ListenTableEntry.dropQueue queue)
      fun _ now => ∃ sockets, now = { state with sockets } ∧
        ∀ handle ∈ sockets, handle ∈ state.sockets ∧ handle ∉ queue := by
  induction queue generalizing state with
  | nil =>
    refine .pure ?_
    rintro _ rfl
    exact ⟨_, rfl, fun _ member => ⟨member, List.not_mem_nil⟩⟩
  | cons handle rest ih =>
    have removed : Yields state (SocketSetWrapper.remove handle)
        fun _ now => now = { state with sockets := state.sockets.erase handle } := by
      refine .locked (.read_bind ?_)
      rintro state rfl
      split
      · exact panicWith_triple fun _ _ => trivial
      · exact MemTriple.updated
    refine removed.bind fun _ => (ih _).mono ?_
    rintro _ now ⟨sockets, rfl, left⟩
    refine ⟨sockets, rfl, fun other member => ?_⟩
    obtain ⟨older, outside⟩ := left other member
    obtain ⟨different, older⟩ := Std.TreeMap.mem_erase.mp older
    refine ⟨older, fun queued => ?_⟩
    rcases List.mem_cons.mp queued with rfl | queued
    · exact different (compare_eq_iff_eq.mpr rfl)
    · exact outside queued

theorem ListenTable.unlisten_spec (port : UInt16) (state : NetState smol) :
    Yields state (ListenTable.unlisten port)
      fun _ now => (Tame state now ∧ Accounted none state now) ∧
        now.listener = Function.update state.listener port.toNat none := by
  unfold ListenTable.unlisten ListenTable.lockSlot
  split
  · rename_i inside
    refine .locked (.read_bind ?_)
    rintro state rfl
    have dropped : Yields state (dropEntry (state.listenTable ⟨port.toNat, inside⟩))
        fun _ now => ∃ sockets, now = { state with sockets } ∧ ∀ handle ∈ sockets, handle ∈ state.sockets ∧
          ∀ entry, state.listenTable ⟨port.toNat, inside⟩ = some entry → handle ∉ entry.synQueue := by
      cases listening : state.listenTable ⟨port.toNat, inside⟩ with
      | none =>
        refine .pure ?_
        rintro _ rfl
        exact ⟨_, rfl, fun _ member => ⟨member, nofun⟩⟩
      | some entry =>
        refine (dropQueue_spec entry.synQueue state).mono ?_
        rintro _ now ⟨sockets, rfl, left⟩
        refine ⟨sockets, rfl, fun handle member => ⟨(left handle member).1, ?_⟩⟩
        rintro _ ⟨rfl⟩
        exact (left handle member).2
    refine dropped.bind fun _ => .update ?_
    rintro now ⟨sockets, rfl, left⟩
    refine ⟨⟨⟨rfl, id, fun bounded => bounded_setEntry bounded nofun⟩, fun handle member => ?_⟩,
      listener_setEntry ..⟩
    obtain ⟨older, outside⟩ := left handle member
    by_cases queued : state.Queued handle
    · obtain ⟨other, entry, listening, waiting⟩ := queued
      refine Or.inr (Or.inl (queued_setEntry.mpr (Or.inr ⟨other, entry, ?_, listening, waiting⟩)))
      rintro rfl
      exact outside entry listening waiting
    · exact Or.inr (Or.inr ⟨older, queued⟩)
  · exact panicWith_triple fun _ _ => trivial

theorem ListenTable.accept_takes (port : UInt16) (state : NetState smol) :
    Yields state (ListenTable.accept port)
      fun result now => Tame state now ∧ now.listener = state.listener ∧
        (result ≠ .error .connectionReset → Accounted (result.toOption.map (·.1)) state now) := by
  have unchanged : ∀ {error : AxError}, Yields state
      (pure (.error error) : NetM smol (AxResult (SocketHandle × IpEndpoint × IpEndpoint)))
      fun result now => Tame state now ∧ now.listener = state.listener ∧
        (result ≠ .error .connectionReset → Accounted (result.toOption.map (·.1)) state now) := by
    intro error
    refine .pure ?_
    rintro _ rfl
    exact ⟨(refl_of Quiet _).toTame, rfl, fun _ => (refl_of Quiet _).accounted⟩
  unfold ListenTable.accept ListenTable.lockSlot
  split
  · rename_i inside
    refine .locked (.read_bind ?_)
    rintro state rfl
    cases listening : state.listenTable ⟨port.toNat, inside⟩ with
    | none => exact unchanged
    | some entry =>
      refine .bind ((findConnected_spec state entry.synQueue).partly fun _ _ spec => spec.1) fun found => ?_
      split
      · exact unchanged
      · split
        · exact panicWith_triple fun _ _ => trivial
        · rename_i handle synQueue removed
          have perm := ListenTable.swapRemoveFront_perm removed
          have taken : Tame state (state.setEntry ⟨port.toNat, inside⟩ (some { entry with synQueue })) := by
            refine ⟨rfl, id, fun bounded => bounded_setEntry bounded ?_⟩
            rintro changed ⟨rfl⟩
            have shorter := perm.length_eq
            have short := bounded _ entry listening
            rw [List.length_cons] at shorter
            change synQueue.length ≤ listenQueueSize
            omega
          have listeners := funext (listener_setEntry_same listening synQueue)
          refine .update_bind (.bind ((isClosed_spec _ handle).partly
              fun _ _ spec => spec.1) fun closed => ?_)
          split
          · refine .pure ?_
            rintro _ rfl
            exact ⟨taken, listeners, fun different => absurd rfl different⟩
          · have addresses : ReadsOnly (getAddrTuple handle : NetM smol _) := by
              refine withSocket_evolves handle fun socket => ?_
              split
              · exact ReadsOnly.pure
              · exact .stop
            refine (addresses _).bind fun addrs => .pure ?_
            rintro _ rfl
            refine ⟨taken, listeners, fun _ other member => ?_⟩
            by_cases same : handle = other
            · exact Or.inl (congrArg some same)
            · by_cases queued : state.Queued other
              · obtain ⟨slot, entry', found, waiting⟩ := queued
                refine Or.inr (Or.inl (queued_setEntry.mpr ?_))
                by_cases here : slot = ⟨port.toNat, inside⟩
                · rw [here, listening] at found
                  cases found
                  have kept := (List.mem_cons.mp (perm.mem_iff.mpr waiting)).resolve_left (Ne.symm same)
                  exact Or.inl ⟨_, rfl, kept⟩
                · exact Or.inr ⟨slot, entry', here, found, waiting⟩
              · exact Or.inr (Or.inr ⟨member, queued⟩)
  · exact panicWith_triple fun _ _ => trivial

theorem TcpSocket.new_adds (state : NetState smol) :
    Yields state TcpSocket.new fun socket now => Tame state now ∧ now.listener = state.listener ∧
      socket.state = .closed ∧
      ∃ handle, socket.handle = some handle ∧ Accounted (some handle) state now := by
  refine .bind ((SocketSetWrapper.newTcpSocket_spec state).onStop fun _ _ => trivial) fun socket =>
    .bind (?_ :
    MemTriple _ _ (fun handle now => Tame state now ∧ now.listener = state.listener ∧
      Accounted (some handle) state now) _)
    fun handle => MemTriple.pure fun now spec => ⟨spec.1, spec.2.1, rfl, handle, rfl, spec.2.2⟩
  refine .locked (.read_bind ?_)
  rintro state ⟨rfl, -⟩
  refine .update_bind (.pure ?_)
  rintro _ rfl
  refine ⟨⟨rfl, id, id⟩, rfl, fun handle member => ?_⟩
  rcases Std.TreeMap.mem_insert.mp member with same | member
  · exact Or.inl (congrArg some (compare_eq_iff_eq.mp same))
  · have older : Accounted none state state := (refl_of Quiet state).accounted
    exact Or.inr ((older handle member).resolve_left nofun)

namespace TcpSocket

/-- What an accept leaves: its own socket as it was and, when it hands out a
connection, a new one with the handle that left the queue. -/
structure Accepts (socket : TcpSocket) (before : NetState smol)
    (result : AxResult TcpSocket × TcpSocket) (after : NetState smol) : Prop where
  same : result.2 = socket
  tame : Tame before after
  listeners : after.listener = before.listener
  accounted : result.1 ≠ .error .connectionReset →
    Accounted (result.1.toOption.bind TcpSocket.handle) before after
  fresh : ∀ accepted, result.1 = .ok accepted → accepted.state = .connected ∧ ∃ handle,
    accepted.handle = some handle

theorem accept_accepts (self : TcpSocket) (state : NetState smol) :
    Yields state (self.accept : NetM smol _) (self.Accepts state) := by
  have once : ∀ other, other = self → Leads (Quiet state)
      (other.acceptOnce : NetM smol _) (self.Accepts state) := by
    rintro other rfl
    refine .fixed fun now quiet => (ListenTable.accept_takes _ now).bind fun accepted => ?_
    cases accepted with
    | error error =>
      refine .pure fun after spec => ?_
      obtain ⟨tame, listeners, accounted⟩ := spec
      refine ⟨rfl, quiet.toTame.trans tame, listeners.trans (funext quiet.listeners), fun different => ?_, nofun⟩
      exact quiet.accounted.trans (accounted fun same => different (by rw [Except.error.inj same]))
    | ok value =>
      refine .pure fun after spec => ?_
      obtain ⟨tame, listeners, accounted⟩ := spec
      refine ⟨rfl, quiet.toTame.trans tame, listeners.trans (funext quiet.listeners), fun _ => ?_, ?_⟩
      · exact quiet.accounted.trans (accounted nofun)
      · rintro _ ⟨rfl⟩
        exact ⟨rfl, value.1, rfl⟩
  unfold accept
  split
  · refine .pure ?_
    rintro _ rfl
    exact ⟨rfl, (refl_of Quiet _).toTame, rfl, fun _ => (refl_of Quiet _).accounted, nofun⟩
  · have polls : Preserves (Quiet state) (fun _ => True) (SocketSetWrapper.pollInterfaces : NetM smol Unit) :=
      pollInterfaces_quiet.keeps fun _ _ step quiet => trans_of Quiet quiet step
    refine MemTriple.startingAt (blockOn_triple polls once ?_ trivial rfl) (refl_of Quiet state)
    rintro ⟨outcome, after⟩ now waits accepts
    cases outcome with
    | ok accepted => cases waits
    | error error =>
      have blocking : error = .wouldBlock := by
        cases error <;> first | rfl | cases waits
      refine ⟨⟨accepts.tame, congrFun accepts.listeners, accepts.accounted ?_⟩, accepts.same⟩
      rw [blocking]
      exact nofun

structure Enlists (socket : TcpSocket) (before : NetState smol) (after : TcpSocket)
    (now : NetState smol) : Prop where
  tame : Tame before now
  accounted : Accounted none before now
  handle : after.handle = socket.handle
  idle : socket.state ≠ .busy → after.state ≠ .busy
  listeners : now.listener = before.listener ∧ after.listensAt = socket.listensAt ∨
    socket.listensAt = none ∧ ∃ port endpoint, after.listensAt = some (port, endpoint) ∧
      before.listener port = none ∧
      now.listener = Function.update before.listener port (some endpoint)

theorem listen_enlists (self : TcpSocket) (state : NetState smol) :
    Yields state (self.listen : NetM smol _)
      fun result now => self.Enlists state result.2 now := by
  have untouched : self.Enlists state self state :=
    ⟨(refl_of Quiet state).toTame, (refl_of Quiet state).accounted, rfl, id, Or.inl ⟨rfl, rfl⟩⟩
  have started : Yields state
      (self.updateState .closed .listening listenStart : NetM smol _)
      fun result now => self.Enlists state result.2 now := by
    refine updateState_triple (fun closed => ?_) fun _ _ same => same ▸ untouched
    have silent : self.listensAt = none := listensAt_of_ne (by rw [closed]; exact nofun)
    refine (((boundEndpoint_quietly { self with state := .busy }).start state).bind fun bound =>
      MemTriple.fixed fun middle holds => ?_)
    obtain ⟨quiet, port, rfl, nonzero⟩ := holds
    refine (ListenTable.listen_spec _ middle).bind fun result => .pure fun now spec => ?_
    cases result with
    | error error =>
      obtain rfl : now = middle := spec
      exact ⟨quiet.toTame, quiet.accounted, rfl, fun _ => nofun,
        Or.inl ⟨funext quiet.listeners, (listensAt_of_ne (by nofun)).trans silent.symm⟩⟩
    | ok value =>
      obtain ⟨⟨tame, accounted⟩, vacant, listeners⟩ := spec
      refine ⟨quiet.toTame.trans tame, quiet.accounted.trans accounted, rfl, fun _ => nofun,
        Or.inr ⟨silent, port.toNat, _, if_pos rfl, ?_, ?_⟩⟩
      · exact (quiet.listeners _).symm.trans vacant
      · rw [listeners, funext quiet.listeners]
        rfl
  refine started.bind fun result => ?_
  split
  · exact .pure fun _ holds => holds
  · exact .pure fun _ holds => holds

structure Unlists (socket : TcpSocket) (before after : NetState smol) : Prop where
  tame : Tame before after
  accounted : Accounted none before after
  listeners : after.listener = match socket.listensAt with
    | none => before.listener
    | some (port, _) => Function.update before.listener port none

theorem Unlists.of_quiet {before after : NetState smol} (quiet : Quiet before after)
    (silent : self.listensAt = none) : self.Unlists before after := by
  refine ⟨quiet.toTame, quiet.accounted, ?_⟩
  rw [silent]
  exact funext quiet.listeners

theorem Unlists.quiet {before middle after : NetState smol} (unlists : self.Unlists before middle)
    (quiet : Quiet middle after) : self.Unlists before after :=
  ⟨unlists.tame.trans quiet.toTame, unlists.accounted.trans quiet.accounted,
    (funext quiet.listeners).trans unlists.listeners⟩

theorem shutdown_unlists {handle : SocketHandle} (named : self.handle = some handle)
    (state : NetState smol) :
    Yields state (self.shutdown : NetM smol _)
      fun result now => self.Unlists state now ∧ result.2.handle = self.handle ∧ result.2.listensAt = none ∧
        (self.state ≠ .busy → result.2.state ≠ .busy) := by
  have stream : Quietly (fun result => result.2.handle = self.handle)
      (shutdownStream { self with state := .busy } : NetM smol _) := by
    have same : { self with state := .busy }.handle = some handle := named
    unfold shutdownStream
    rw [unwrapHandle_of_handle same, pure_bind]
    exact Quietly.andThen (withSocketMut_quiet handle fun _ => ReadsOnly.pure) fun _ =>
      Quietly.andThen pollInterfaces_quiet fun _ => .pure rfl
  refine .bind ((updateState_quietly .connected .closed ⟨by decide, by decide⟩ (by decide)
    stream).start state) fun stopped =>
    MemTriple.fixed fun middle holds => ?_
  obtain ⟨quiet, follows, expected⟩ := holds
  split
  · rename_i error failed
    have silent : self.listensAt = none := listensAt_of_ne (by rw [expected _ failed]; decide)
    refine .pure ?_
    rintro _ rfl
    exact ⟨Unlists.of_quiet quiet silent, follows.handle, follows.listens.trans silent, follows.idle⟩
  · have listener : Yields middle
        (stopped.2.updateState .listening .closed shutdownListener :
          NetM smol (Except SocketState (AxResult Unit) × TcpSocket))
        fun result now => self.Unlists state now ∧ result.2.handle = self.handle ∧ result.2.listensAt = none ∧
          (self.state ≠ .busy → result.2.state ≠ .busy) := by
      refine updateState_triple (fun listening => ?_) fun different now same => ?_
      · have claims := follows.listens
        rw [listensAt, if_pos listening] at claims
        refine (ListenTable.unlisten_spec _ middle).bind fun _ => .fixed fun now spec => ?_
        obtain ⟨⟨tame, accounted⟩, listeners⟩ := spec
        have unlists : self.Unlists state now := by
          refine ⟨quiet.toTame.trans tame, quiet.accounted.trans accounted, ?_⟩
          rw [← claims, listeners, funext quiet.listeners]
        refine (pollInterfaces_quiet now).bind fun _ => .pure fun after polled => ?_
        exact ⟨unlists.quiet polled, follows.handle, listensAt_of_ne (by rintro ⟨⟩), fun _ => by rintro ⟨⟩⟩
      · subst same
        have silent := listensAt_of_ne different
        exact ⟨Unlists.of_quiet quiet (follows.listens.symm.trans silent), follows.handle, silent, follows.idle⟩
    refine listener.bind fun result => ?_
    split
    · exact .pure fun _ holds => holds
    · exact .pure fun _ holds => holds

theorem drop_unlists {handle : SocketHandle} (named : self.handle = some handle)
    (state : NetState smol) :
    Yields state (self.drop : NetM smol Unit) fun _ now => self.Unlists state now ∧ handle ∉ now.sockets := by
  refine (shutdown_unlists named state).bind fun result => .fixed fun middle holds => ?_
  obtain ⟨unlists, same, -⟩ := holds
  rw [same, named]
  refine .locked (.read_bind ?_)
  rintro middle rfl
  split
  · exact panicWith_triple fun _ _ => trivial
  · refine .update ?_
    rintro _ rfl
    refine ⟨unlists.quiet (Quiet.of_subset rfl rfl id fun _ member =>
      (Std.TreeMap.mem_erase.mp member).2), fun member => ?_⟩
    exact (Std.TreeMap.mem_erase.mp member).1 (compare_eq_iff_eq.mpr rfl)

end TcpSocket

def claims (vec : List (Option TcpSocket)) (id : Nat) : Option (Nat × IpListenEndpoint) :=
  vec[id]?.join.bind TcpSocket.listensAt

theorem claims_set {id : Nat} (inside : id < vec.length) (slot : Option TcpSocket) :
    claims (vec.set id slot) = Function.update (claims vec) id (slot.bind TcpSocket.listensAt) := by
  funext other
  by_cases same : other = id
  · rw [same, Function.update_self, claims, List.getElem?_set_self inside, Option.join_some]
  · rw [Function.update_of_ne same, claims, claims, List.getElem?_set_ne (Ne.symm same)]

theorem claims_push (vec : List (Option TcpSocket)) {socket : TcpSocket}
    (silent : socket.listensAt = none) (id : Nat) :
    claims (vec ++ [some socket]) id = claims vec id := by
  unfold claims
  rw [List.getElem?_append]
  split
  · rfl
  · rename_i outside
    rw [List.getElem?_eq_none (Nat.not_lt.mp outside), List.getElem?_singleton]
    split
    · exact silent
    · rfl

theorem claims_of_found {id : Nat} {socket : TcpSocket}
    (found : vec[id]? = some (some socket)) : claims vec id = socket.listensAt := by
  rw [claims, found]
  rfl

structure TcpSocket.Settled (socket : TcpSocket) : Prop where
  named : ∃ handle, socket.handle = some handle
  idle : socket.state ≠ .busy

theorem TcpSocket.Follows.settled {after : TcpSocket} (follows : self.Follows after)
    (settled : self.Settled) :
    after.Settled := by
  obtain ⟨handle, named⟩ := settled.named
  exact ⟨⟨handle, follows.handle.trans named⟩, follows.idle settled.idle⟩

structure Registered (state : NetState smol) : Prop where
  counter : portStart.toNat ≤ state.curr.toNat
  sockets : ∀ (id : Nat) (socket : TcpSocket), state.socketVec[id]? = some (some socket) → socket.Settled
  lists : Lists (claims state.socketVec) state.listener

namespace Registered

variable {state now : NetState smol} {id : Nat} {self after : TcpSocket}

theorem change (registered : Registered state) (tame : Tame state now)
    (found : state.socketVec[id]? = some (some self)) {slot : Option TcpSocket}
    (settled : ∀ socket ∈ slot, socket.Settled)
    (lists : Lists (Function.update (claims state.socketVec) id (slot.bind TcpSocket.listensAt)) now.listener) :
    Registered { now with socketVec := now.socketVec.set id slot } := by
  have inside : id < state.socketVec.length := (List.getElem?_eq_some_iff.mp found).1
  refine ⟨tame.counter registered.counter, fun other socket stored => ?_, ?_⟩
  · rw [tame.table, List.getElem?_set] at stored
    rw [if_pos inside] at stored
    split at stored
    · exact settled socket (Option.some.inj stored)
    · exact registered.sockets other socket stored
  · rw [tame.table, claims_set inside]
    exact lists

theorem lists_follows (registered : Registered state) (found : state.socketVec[id]? = some (some self))
    (follows : self.Follows after) (listeners : now.listener = state.listener) :
    Lists (Function.update (claims state.socketVec) id after.listensAt) now.listener := by
  rw [follows.listens, ← claims_of_found found, Function.update_eq_self, listeners]
  exact registered.lists

theorem lists_unlists (registered : Registered state) (found : state.socketVec[id]? = some (some self))
    (listeners : now.listener = match self.listensAt with
      | none => state.listener
      | some (port, _) => Function.update state.listener port none) :
    Lists (Function.update (claims state.socketVec) id none) now.listener := by
  have claimed := claims_of_found found
  cases listens : self.listensAt with
  | none =>
    rw [listens] at claimed listeners
    have kept : Function.update (claims state.socketVec) id none = claims state.socketVec := by
      rw [← claimed, Function.update_eq_self]
    rw [kept, listeners]
    exact registered.lists
  | some claim =>
    rw [listens] at claimed listeners
    rw [listeners]
    exact registered.lists.leave claimed

theorem lists_enlists (registered : Registered state)
    (found : state.socketVec[id]? = some (some self)) (enlists : self.Enlists state after now) :
    Lists (Function.update (claims state.socketVec) id after.listensAt) now.listener := by
  have claimed := claims_of_found found
  rcases enlists.listeners with ⟨listeners, listens⟩ | ⟨silent, port, endpoint, listens, vacant,
    listeners⟩
  · rw [listens, ← claimed, Function.update_eq_self, listeners]
    exact registered.lists
  · rw [listens, listeners]
    exact registered.lists.enter endpoint (claimed.trans silent) vacant

theorem push (registered : Registered state) (settled : self.Settled) (silent : self.listensAt = none) :
    Registered { state with socketVec := state.socketVec ++ [some self] } := by
  refine ⟨registered.counter, fun id socket stored =>
    ?_, registered.lists.congr (claims_push _ silent) fun _ => rfl⟩
  rw [List.getElem?_append] at stored
  split at stored
  · exact registered.sockets id socket stored
  · rw [List.getElem?_singleton] at stored
    split at stored
    · cases stored
      exact settled
    · cases stored

end Registered

theorem registered_init (smol : Smoltcp) : Registered (NetState.init smol) where
  counter := Nat.le_refl _
  sockets _ _ := nofun
  lists := by
    refine Lists.empty.congr (fun _ => rfl) fun port => ?_
    rw [NetState.listener]
    split <;> rfl

structure Invoked (state : NetState smol) (id : Nat) (result : Option TcpSocket × TcpSocket)
    (now : NetState smol) :
    Prop where
  tame : Tame state now
  settled : result.2.Settled
  lists : Lists (Function.update (claims state.socketVec) id result.2.listensAt) now.listener
  accepted : ∀ socket ∈ result.1, socket.Settled ∧ socket.listensAt = none

theorem invoke_registers {state : NetState smol} (registered : Registered state) {id : Nat}
    (found : state.socketVec[id]? = some (some self)) (call : Call) :
    Yields state (self.invoke call) (Invoked state id) := by
  have settled := registered.sockets id self found
  obtain ⟨handle, named⟩ := settled.named
  have followed : ∀ {now : NetState smol} {after : TcpSocket}, Quiet state now → self.Follows after →
      Invoked state id (none, after) now := fun quiet follows =>
    ⟨quiet.toTame, follows.settled settled,
      registered.lists_follows found follows (funext quiet.listeners), nofun⟩
  have quietly : ∀ {β : Type} {program : NetM smol (β × TcpSocket)},
      Quietly (fun result => self.Follows result.2) program →
        Yields state (ignoringResult program) (Invoked state id) :=
    fun keeps => (keeps.start state).bind fun _ => .pure fun _ kept => followed kept.1 kept.2
  have pure : ∀ {after : TcpSocket}, self.Follows after → Yields state
      (Pure.pure (none, after) : NetM smol _) (Invoked state id) :=
    fun follows => .pure fun _ same => followed (same ▸ refl_of Quiet state) follows
  cases call with
  | bind localAddr => exact quietly (self.bind_quietly named localAddr)
  | connect remoteAddr => exact quietly (self.connect_quietly named remoteAddr)
  | send buf => exact quietly ((self.onConnected_quietly _).mono fun _ same => same ▸ TcpSocket.Follows.refl self)
  | recv len => exact quietly ((self.onConnected_quietly _).mono fun _ same => same ▸ TcpSocket.Follows.refl self)
  | poll => exact quietly (self.poll_quietly named)
  | setNonblocking nonblocking => exact pure ⟨rfl, rfl, fun idle => idle⟩
  | setReuseAddr reuse => exact pure ⟨rfl, rfl, fun idle => idle⟩
  | close =>
    exact (self.close_quiet state).bind fun _ => .pure fun _ quiet =>
      followed quiet (TcpSocket.Follows.refl self)
  | listen =>
    refine (self.listen_enlists state).bind fun result => .pure fun now enlists => ?_
    exact ⟨enlists.tame, ⟨⟨handle, enlists.handle.trans named⟩, enlists.idle settled.idle⟩,
      registered.lists_enlists found enlists, nofun⟩
  | shutdown =>
    refine (self.shutdown_unlists named state).bind fun result => .pure fun now spec => ?_
    obtain ⟨unlists, same, silent, idle⟩ := spec
    refine ⟨unlists.tame, ⟨⟨handle, same.trans named⟩, idle settled.idle⟩, ?_, nofun⟩
    rw [silent]
    exact registered.lists_unlists found unlists.listeners
  | accept =>
    refine (self.accept_accepts state).bind fun result => .pure fun now accepts => ?_
    have same := accepts.same
    refine ⟨accepts.tame, same ▸ settled, ?_, fun socket taken => ?_⟩
    · exact registered.lists_follows found (same ▸ TcpSocket.Follows.refl self) accepts.listeners
    · obtain ⟨outcome, after⟩ := result
      cases outcome with
      | error error => cases taken
      | ok accepted =>
        cases taken
        obtain ⟨connected, named⟩ := accepts.fresh socket rfl
        exact ⟨⟨named, by rw [connected]; exact nofun⟩, TcpSocket.listensAt_of_ne (by rw [connected]; exact nofun)⟩

theorem new_registers :
    Leads Registered (TcpSocket.new : NetM smol _)
      (fun socket now => Registered now ∧ socket.Settled ∧ socket.listensAt = none) := by
  refine .fixed fun state registered => (TcpSocket.new_adds state).mono ?_
  rintro socket now ⟨tame, listeners, closed, handle, named, -⟩
  refine ⟨⟨tame.counter registered.counter, ?_, ?_⟩, ⟨⟨handle, named⟩, ?_⟩, TcpSocket.listensAt_of_ne ?_⟩
  · rw [tame.table]
    exact registered.sockets
  · rw [tame.table, listeners]
    exact registered.lists
  · rw [closed]
    exact nofun
  · rw [closed]
    exact nofun

theorem perform_registers (input : CallInput) :
    Leads Registered (perform input : NetM smol Unit) (fun _ => Registered) := by
  refine .fixed fun state before => .update_bind ?_
  have registered : Registered { state with incoming := state.incoming ++ input.arrivals } :=
    ⟨before.counter, before.sockets, before.lists⟩
  cases input.action with
  | new =>
    exact (new_registers.startingAt registered).bind fun socket =>
      MemTriple.update fun after holds => holds.1.push holds.2.1 holds.2.2
  | call id operation =>
    refine .read_bind ?_
    rintro state rfl
    dsimp only
    split
    · rename_i self found
      refine (invoke_registers registered found operation).bind fun result => .fixed fun now invoked =>
        MemTriple.update_bind ?_
      have stored : Registered { now with socketVec := now.socketVec.set id (some result.2) } := by
        refine registered.change invoked.tame found ?_ invoked.lists
        rintro _ ⟨rfl⟩
        exact invoked.settled
      split
      · rename_i accepted taken
        obtain ⟨settled, silent⟩ := invoked.accepted accepted taken
        refine .update ?_
        rintro _ rfl
        exact stored.push settled silent
      · exact .pure fun _ same => same ▸ stored
    · exact .pure fun _ same => same ▸ registered
  | drop id =>
    refine .read_bind ?_
    rintro state rfl
    dsimp only
    split
    · rename_i self found
      obtain ⟨handle, named⟩ := (registered.sockets id self found).named
      refine .update_bind ((TcpSocket.drop_unlists named _).mono ?_)
      rintro _ now ⟨unlists, -⟩
      have inside : id < state.socketVec.length := (List.getElem?_eq_some_iff.mp found).1
      refine ⟨unlists.tame.counter registered.counter, ?_, ?_⟩
      · rw [unlists.tame.table]
        intro other socket stored
        rw [List.getElem?_set, if_pos inside] at stored
        split at stored
        · cases stored
        · exact registered.sockets other socket stored
      · rw [unlists.tame.table, claims_set inside]
        exact registered.lists_unlists found unlists.listeners
    · exact .pure fun _ same => same ▸ registered

theorem run_registered {smol : Smoltcp} {inputs : List CallInput} {world : NetWorld smol}
    (ran : (runAll perform inputs).run (NetWorld.init smol) = .ok () world) :
    Registered world.memory := by
  have kept : ∀ (input : CallInput) (_ : Nat),
      Triple (fun world : NetWorld smol => Registered world.memory ∧ True)
        (perform input) (fun _ world => Registered world.memory) (fun _ _ => True) :=
    fun input _ => (perform_registers input).triple.weaken (fun _ holds => holds.1)
      (fun _ _ kept => kept) fun _ _ holds => holds
  exact (runAll_invariant kept inputs 0).of_run ⟨registered_init smol, meetsAlong_true inputs _⟩ ran

def NetState.ListensOn (state : NetState smol) (port : Nat) (id : Nat) : Prop :=
  ∃ socket : TcpSocket, state.socketVec[id]? = some (some socket) ∧ socket.state = .listening ∧
    socket.localAddr.port.toNat = port

/-- The listen table and the sockets agree, and no socket is caught in the middle of an update. -/
structure NetState.ListensConsistently (state : NetState smol) : Prop where
  occupied : ∀ slot : Fin portNum, (state.listenTable slot).isSome ↔ ∃! id, state.ListensOn slot id
  endpoint : ∀ (slot : Fin portNum) (entry : ListenTableEntry) (id : Nat) (socket : TcpSocket),
    state.listenTable slot = some entry → state.socketVec[id]? = some (some socket) → socket.state = .listening →
      socket.localAddr.port.toNat = slot → entry.listenEndpoint = socket.endpoint
  settled : ∀ (id : Nat) (socket : TcpSocket), state.socketVec[id]? = some (some socket) →
    socket.state ≠ .busy

theorem claims_eq_some {id port : Nat} {endpoint : IpListenEndpoint} :
    claims vec id = some (port, endpoint) ↔ ∃ socket : TcpSocket, vec[id]? = some (some socket) ∧
      socket.state = .listening ∧ socket.localAddr.port.toNat = port ∧ socket.endpoint = endpoint := by
  constructor
  · intro claimed
    obtain ⟨socket, found, listens⟩ := Option.bind_eq_some_iff.mp claimed
    unfold TcpSocket.listensAt at listens
    split at listens
    · rename_i listening
      cases listens
      exact ⟨socket, Option.join_eq_some_iff.mp found, listening, rfl, rfl⟩
    · cases listens
  · rintro ⟨socket, found, listening, rfl, rfl⟩
    rw [claims_of_found found, TcpSocket.listensAt, if_pos listening]

theorem Registered.consistent {state : NetState smol} (registered : Registered state) :
    state.ListensConsistently where
  occupied slot := by
    have stands : (state.listener slot).isSome ↔ (state.listenTable slot).isSome := by
      rw [NetState.listener, dif_pos slot.isLt, Option.isSome_map]
    have exactly : ∀ id, (∃ endpoint, claims state.socketVec id = some (slot.val, endpoint)) ↔
        state.ListensOn slot id := by
      intro id
      constructor
      · rintro ⟨endpoint, claimed⟩
        obtain ⟨socket, found, listening, port, -⟩ := claims_eq_some.mp claimed
        exact ⟨socket, found, listening, port⟩
      · rintro ⟨socket, found, listening, port⟩
        exact ⟨socket.endpoint, claims_eq_some.mpr ⟨socket, found, listening, port, rfl⟩⟩
    rw [← stands, registered.lists.isSome_iff]
    exact existsUnique_congr exactly
  endpoint slot entry id socket occupied found listening port := by
    have claimed := claims_eq_some.mpr ⟨socket, found, listening, port, rfl⟩
    have listed := registered.lists.listed id slot socket.endpoint claimed
    rw [NetState.listener, dif_pos slot.isLt, occupied] at listed
    exact Option.some.inj listed
  settled id socket found := (registered.sockets id socket found).idle

/-- After any calls on any sockets, a slot of the listen table is taken exactly
when one socket listens there, with the endpoint of that socket. -/
theorem listen_table_consistent (smol : Smoltcp) (inputs : List CallInput) (world : NetWorld smol)
    (ran : (runAll perform inputs).run (NetWorld.init smol) = .ok () world) :
    world.memory.ListensConsistently :=
  (run_registered ran).consistent

/-- The server listens on, with one connection accepted. -/
theorem listen_table_consistent_acceptedRun :
    ((finalState ((runAll perform acceptedRun).run (NetWorld.init .small))).memory.listenTable
      ⟨6379, by decide⟩).isSome ∧
      (finalState ((runAll perform acceptedRun).run (NetWorld.init .small))).memory.ListensConsistently := by
  have returns : returnValue ((runAll perform acceptedRun).run (NetWorld.init .small)) =
    some () := by decide +kernel
  exact ⟨by decide +kernel, listen_table_consistent .small acceptedRun _ (ran_of_returnValue returns)⟩

end RootTaskDemo.Net
