import RootTaskDemo.Net.Listeners

namespace RootTaskDemo.Net

open Common Lib Thread

variable {smol : Smoltcp} {α : Type}

/-! What a socket is left with when it is given a local address: by a bind that
fails, and by the operations that choose an ephemeral port. -/

def NetState.addressTaken (state : NetState smol) (addr : IpAddress) : Bool :=
  state.sockets.toList.any fun item => (smol.getBoundEndpoint item.2).addr == some addr

namespace TcpSocket

def ReachesCheck (self : TcpSocket) : Prop :=
  self.state = .closed ∧ self.localAddr = unspecifiedEndpoint ∧ self.reuseAddr = false

instance (self : TcpSocket) : Decidable self.ReachesCheck := inferInstanceAs (Decidable (_ ∧ _))

theorem choosePort_spec (localAddr : SocketAddr) {state : NetState smol}
    (counter : portStart.toNat ≤ state.curr.toNat) :
    Yields state (choosePort localAddr)
      fun result now => ∃ port curr, result = .ok { localAddr with port } ∧ port ≠ 0 ∧ now = { state with curr } ∧
        (localAddr.port = 0 → state.Draws port) := by
  unfold choosePort portOrEphemeral
  by_cases zero : localAddr.port = 0
  · rw [if_pos zero]
    refine (getEphemeralPort_draws state).bind fun chosen => .fixed ?_
    rintro now ⟨port, rfl, draws, rfl⟩
    refine .pure ?_
    rintro _ rfl
    exact ⟨port, _, rfl, ne_zero_of_counter (Nat.le_trans counter draws.above), rfl, fun _ => draws⟩
  · rw [if_neg zero, pure_bind]
    refine .pure ?_
    rintro state rfl
    exact ⟨localAddr.port, state.curr, rfl, zero, rfl, fun same => absurd same zero⟩

theorem bindCheck_spec (state : NetState smol) (addr : IpAddress) (port : UInt16) :
    Delivers state (SocketSetWrapper.bindCheck addr port)
      fun result now => now = state ∧
        result = if state.addressTaken addr then .error .addrInUse else .ok () := by
  refine .locked (.read_bind ?_)
  rintro state rfl
  unfold NetState.addressTaken
  split
  · exact .pure fun _ same => ⟨same, rfl⟩
  · exact .pure fun _ same => ⟨same, rfl⟩

theorem bindStart_error_spec (localAddr : SocketAddr) (self : TcpSocket) {state : NetState smol}
    (counter : portStart.toNat ≤ state.curr.toNat) :
    Yields state (bindStart localAddr self)
      fun result now => ∀ error, result.1 = .error error →
        (now.sockets = state.sockets ∧ now.listenTable = state.listenTable) ∧
        if self.localAddr = unspecifiedEndpoint ∧ self.reuseAddr = false ∧ state.addressTaken (fromCoreIpaddr localAddr.ip)
        then result.2.localAddr ≠ self.localAddr else result.2 = self := by
  refine (choosePort_spec localAddr counter).bind fun chosen => .fixed ?_
  rintro now ⟨port, curr, rfl, nonzero, rfl, -⟩
  dsimp only
  by_cases unbound : self.localAddr = unspecifiedEndpoint
  · rw [if_neg (not_not.mpr unbound)]
    have named : (fromCoreSockaddr { localAddr with port }).port ≠ 0 := nonzero
    have different : fromCoreSockaddr { localAddr with port } ≠ self.localAddr := by
      rw [unbound]
      exact fun same => nonzero (congrArg IpEndpoint.port same)
    unfold checkBind
    cases reuse : self.reuseAddr with
    | true =>
      rw [if_pos rfl, pure_bind]
      dsimp only
      rw [boundEndpoint_of_port named, pure_bind]
      exact MemTriple.anything.bind fun _ => MemTriple.anything.bind fun _ => .pure (by rintro _ _ _ ⟨⟩)
    | false =>
      rw [if_neg Bool.false_ne_true]
      refine (bindCheck_spec { state with curr } _ _).raising.bind fun checked => .fixed ?_
      rintro now ⟨rfl, rfl⟩
      cases taken : state.addressTaken (fromCoreIpaddr localAddr.ip) with
      | true =>
        have found : NetState.addressTaken { state with curr } (fromCoreSockaddr { localAddr with port }).addr = true := taken
        rw [if_pos found]
        refine .pure ?_
        rintro _ rfl error _
        rw [if_pos ⟨unbound, rfl, rfl⟩]
        exact ⟨⟨rfl, rfl⟩, different⟩
      | false =>
        have found : ¬ NetState.addressTaken { state with curr } (fromCoreSockaddr { localAddr with port }).addr = true := by
          change ¬ state.addressTaken (fromCoreIpaddr localAddr.ip) = true
          rw [taken]
          exact Bool.false_ne_true
        rw [if_neg found]
        dsimp only
        rw [boundEndpoint_of_port named, pure_bind]
        exact MemTriple.anything.bind fun _ => MemTriple.anything.bind fun _ => .pure (by rintro _ _ _ ⟨⟩)
  · rw [if_pos unbound]
    refine .pure ?_
    rintro _ rfl error _
    rw [if_neg fun reached => unbound reached.1]
    exact ⟨⟨rfl, rfl⟩, rfl⟩

theorem bind_error_spec (self : TcpSocket) (localAddr : SocketAddr) {state : NetState smol}
    (counter : portStart.toNat ≤ state.curr.toNat) :
    Yields state (self.bind localAddr)
      fun result now => ∀ error, result.1 = .error error →
        (now.sockets = state.sockets ∧ now.listenTable = state.listenTable) ∧
        (result.2 = self ↔ ¬ (self.ReachesCheck ∧ state.addressTaken (fromCoreIpaddr localAddr.ip))) := by
  have started : Yields state (self.updateState .closed .closed (bindStart localAddr))
      fun result now => (∀ other, result.1 = .error other → (result.2 = self ∧ self.state ≠ .closed) ∧ now = state) ∧
        ∀ error, result.1 = .ok (.error error) →
          (now.sockets = state.sockets ∧ now.listenTable = state.listenTable) ∧
          (result.2 = self ↔ ¬ (self.ReachesCheck ∧ state.addressTaken (fromCoreIpaddr localAddr.ip))) := by
    refine updateState_triple (fun closed => ?_) fun other _ same =>
      ⟨fun _ _ => ⟨⟨rfl, other⟩, same⟩, by rintro _ ⟨⟩⟩
    refine (bindStart_error_spec localAddr { self with state := .busy } counter).mono ?_
    rintro ⟨outcome, after⟩ now spec
    cases outcome with
    | ok value => exact ⟨by rintro _ ⟨⟩, by rintro _ ⟨⟩⟩
    | error error =>
      obtain ⟨same, left⟩ := spec error rfl
      refine ⟨by rintro _ ⟨⟩, fun _ _ => ⟨same, ?_⟩⟩
      split at left
      · rename_i reached
        refine iff_of_false (fun kept => ?_) (not_not.mpr ⟨⟨closed, reached.1, reached.2.1⟩, reached.2.2⟩)
        have moved : ({ after with state := .closed } : TcpSocket).localAddr = self.localAddr :=
          congrArg TcpSocket.localAddr kept
        exact left moved
      · rename_i unreached
        refine iff_of_true ?_ fun reached => unreached ⟨reached.1.2.1, reached.1.2.2, reached.2⟩
        rw [left, ← closed]
  refine started.bind fun result => ?_
  obtain ⟨outcome, after⟩ := result
  cases outcome with
  | error other =>
    refine .pure ?_
    rintro _ ⟨spec, -⟩ error _
    obtain ⟨⟨same, busy⟩, rfl⟩ := spec other rfl
    exact ⟨⟨rfl, rfl⟩, iff_of_true same fun reached => busy reached.1.1⟩
  | ok outcome => exact .pure fun _ spec error failed => spec.2 error (congrArg Except.ok failed)

end TcpSocket

/-- A bind that fails leaves its socket, the set and the listen table as they
were, unless it is the check of the set that refuses the address. -/
theorem bind_error_atomic_iff (smol : Smoltcp) (inputs : List CallInput) (world world' : NetWorld smol)
    (ran : (runAll perform inputs).run (NetWorld.init smol) = .ok () world) (self after : TcpSocket)
    (localAddr : SocketAddr) (error : AxError)
    (failed : (self.bind localAddr).run world = .ok (.error error, after) world') :
    (after = self ∧ world'.memory.sockets = world.memory.sockets ∧ world'.memory.listenTable =
      world.memory.listenTable) ↔
      ¬ (self.ReachesCheck ∧ world.memory.addressTaken (fromCoreIpaddr localAddr.ip)) := by
  have counter := (run_registered ran).counter
  obtain ⟨same, unchanged⟩ := (self.bind_error_spec localAddr counter).triple.of_run rfl failed error rfl
  rw [← unchanged]
  exact ⟨fun holds => holds.1, fun holds => ⟨holds, same⟩⟩

def boundRun : List CallInput :=
  [⟨.new, []⟩, ⟨.new, []⟩, ⟨.call 0 (.bind ⟨intoCoreIpaddr (sourceAddr .eth0), 6379⟩), []⟩]

def unboundSocket : TcpSocket :=
  { state := .closed, handle := some 1, localAddr := unspecifiedEndpoint,
    peerAddr := unspecifiedEndpoint,
    nonblock := false, reuseAddr := false }

/-- A second bind of the first socket fails as well, and leaves it as it is. -/
theorem bind_error_atomic_iff_boundRun :
    let world := finalState ((runAll perform boundRun).run (NetWorld.init .small))
    let bound := { unboundSocket with handle := some 0, localAddr := fromCoreSockaddr ⟨.v4 #v[10, 0, 2, 15], 6379⟩ }
    let again := (bound.bind ⟨.v4 #v[10, 0, 2, 15], 80⟩).run world
    ∃ after, returnValue again = some (.error .invalidInput, after) ∧
      ((after = bound ∧ (finalState again).memory.sockets = world.memory.sockets ∧
          (finalState again).memory.listenTable = world.memory.listenTable) ↔
        ¬ (bound.ReachesCheck ∧ world.memory.addressTaken (fromCoreIpaddr (.v4 #v[10, 0, 2, 15])))) := by
  intro world bound again
  have ran : returnValue ((runAll perform boundRun).run (NetWorld.init .small)) = some () := by decide +kernel
  have failed : returnValue again = some (.error .invalidInput, bound) := by decide +kernel
  exact ⟨bound, failed, bind_error_atomic_iff .small boundRun world _ (ran_of_returnValue ran) bound bound
    ⟨.v4 #v[10, 0, 2, 15], 80⟩ .invalidInput (ran_of_returnValue failed)⟩

/-- The second socket is refused the address of the first and keeps it all the
same: it can no longer be bound to a free address, and a listen takes the port
of the refused one. -/
theorem bind_keeps_refused_address :
    let world := finalState ((runAll perform boundRun).run (NetWorld.init .small))
    let refused := unboundSocket.bind ⟨.v4 #v[10, 0, 2, 15], 80⟩
    let left := { unboundSocket with localAddr := fromCoreSockaddr ⟨.v4 #v[10, 0, 2, 15], 80⟩ }
    world.memory.socketVec[1]? = some (some unboundSocket) ∧
      returnValue (refused.run world) = some (.error .addrInUse, left) ∧
      left.localAddr ≠ unboundSocket.localAddr ∧
      returnValue ((left.bind ⟨.v4 #v[10, 0, 2, 16], 81⟩).run (finalState (refused.run world))) =
        some (.error .invalidInput, left) ∧
      (finalState (left.listen.run (finalState (refused.run world)))).memory.listener 80 =
        some ⟨some (.ipv4 #v[10, 0, 2, 15]), 80⟩ := by
  decide +kernel

def NetState.HasAddress (state : NetState smol) (addr : IpAddress) : Prop :=
  ∃ (handle : SocketHandle) (socket : smol.Socket), state.sockets[handle]? = some socket ∧
    (smol.getBoundEndpoint socket).addr = some addr

/-- Another live socket is bound to the port, with the same address or with one of
the two addresses unspecified. -/
def NetState.Conflict (state : NetState smol) (self : TcpSocket) (addr : IpAddress) (port : UInt16) : Prop :=
  ∃ handle socket, self.handle ≠ some handle ∧ state.sockets[handle]? = some socket ∧
    (smol.getBoundEndpoint socket).port = port ∧
    ((smol.getBoundEndpoint socket).addr = some addr ∨
      (smol.getBoundEndpoint socket).addr.all isUnspecified ∨ isUnspecified addr)

instance (state : NetState smol) (self : TcpSocket) (addr : IpAddress) (port : UInt16) :
    Decidable (state.Conflict self addr port) :=
  decidable_of_iff (state.sockets.toList.any fun item => self.handle ≠ some item.1 ∧
    (smol.getBoundEndpoint item.2).port = port ∧
      ((smol.getBoundEndpoint item.2).addr = some addr ∨
        (smol.getBoundEndpoint item.2).addr.all isUnspecified ∨ isUnspecified addr))
    (by simp only [NetState.Conflict, List.any_eq_true, Prod.exists, Std.TreeMap.mem_toList_iff_getElem?_eq_some, decide_eq_true_eq,
      and_left_comm])

theorem addressTaken_iff (state : NetState smol) (addr : IpAddress) :
    state.addressTaken addr = true ↔ state.HasAddress addr := by
  simp only [NetState.addressTaken, NetState.HasAddress, List.any_eq_true, Prod.exists,
    Std.TreeMap.mem_toList_iff_getElem?_eq_some, beq_iff_eq]

inductive NetState.BindSettled (state : NetState smol) (self : TcpSocket) (addr : IpAddress)
    (port : UInt16) : Prop
  | taken (handle : SocketHandle) (socket : smol.Socket) (other : self.handle ≠ some handle)
      (found : state.sockets[handle]? = some socket) (same : smol.getBoundEndpoint socket = ⟨some addr, port⟩)
  | free (unused : ∀ (handle : SocketHandle) socket, state.sockets[handle]? = some socket →
        (smol.getBoundEndpoint socket).addr ≠ some addr)
      (apart : ∀ (handle : SocketHandle) socket, self.handle ≠ some handle → state.sockets[handle]? = some socket →
        (smol.getBoundEndpoint socket).port = port →
          ¬ (smol.getBoundEndpoint socket).addr.all isUnspecified ∧ ¬ isUnspecified addr)
  | overlapped (handle : SocketHandle) (socket : smol.Socket) (other : self.handle ≠ some handle)
      (found : state.sockets[handle]? = some socket) (same : (smol.getBoundEndpoint socket).port = port)
      (wide : (smol.getBoundEndpoint socket).addr.all isUnspecified ∨ isUnspecified addr)
        (present : state.HasAddress addr)

theorem bindSettled_iff (state : NetState smol) (self : TcpSocket) (addr : IpAddress) (port : UInt16) :
    state.BindSettled self addr port ↔ (state.HasAddress addr ↔ state.Conflict self addr port) := by
  constructor
  · intro settled
    cases settled with
    | taken handle socket other found same =>
      have sameAddr := congrArg IpListenEndpoint.addr same
      exact iff_of_true ⟨handle, socket, found, sameAddr⟩
        ⟨handle, socket, other, found, congrArg IpListenEndpoint.port same, Or.inl sameAddr⟩
    | free unused apart =>
      refine iff_of_false ?_ ?_
      · rintro ⟨handle, socket, found, same⟩
        exact unused handle socket found same
      · rintro ⟨handle, socket, other, found, same, sameAddr | wild | wild⟩
        · exact unused handle socket found sameAddr
        · exact (apart handle socket other found same).1 wild
        · exact (apart handle socket other found same).2 wild
    | overlapped handle socket other found same wide present =>
      exact iff_of_true present ⟨handle, socket, other, found, same, Or.inr wide⟩
  · intro agree
    by_cases present : state.HasAddress addr
    · obtain ⟨handle, socket, other, found, same, sameAddr | wide⟩ := agree.mp present
      · refine .taken handle socket other found ?_
        rw [← sameAddr, ← same]
      · exact .overlapped handle socket other found same wide present
    · refine .free (fun handle socket found same => present ⟨handle, socket, found, same⟩) ?_
      intro handle socket other found same
      have apart : ¬ state.Conflict self addr port := fun conflict => present (agree.mpr conflict)
      exact ⟨fun wild => apart ⟨handle, socket, other, found, same, Or.inr (Or.inl wild)⟩,
        fun wild => apart ⟨handle, socket, other, found, same, Or.inr (Or.inr wild)⟩⟩

section Check

variable {state : NetState smol} {self : TcpSocket}

theorem TcpSocket.setBound_returns (bound : IpListenEndpoint)
    (live : ∃ handle ∈ state.sockets, self.handle = some handle) :
    Delivers state (self.handleOrAdd >>= fun handle => SocketSetWrapper.withSocketMut handle fun socket =>
      pure ((), smol.setBoundEndpoint bound socket)) fun _ _ => True := by
  obtain ⟨handle, present, named⟩ := live
  have handled : (self.handleOrAdd : NetM smol _) = pure handle := by rw [handleOrAdd, named]
  obtain ⟨socket, found⟩ := Option.isSome_iff_exists.mp (Std.TreeMap.mem_iff_isSome_getElem?.mp present)
  rw [handled, pure_bind]
  refine .locked (.read_bind ?_)
  rintro now rfl
  rw [found]
  dsimp only
  rw [pure_bind]
  exact .update_bind (.pure fun _ _ => trivial)

theorem TcpSocket.bind_decides {localAddr : SocketAddr} (reaches : self.ReachesCheck)
    (nonzero : localAddr.port ≠ 0) (live : ∃ handle ∈ state.sockets, self.handle = some handle) :
    Delivers state (self.bind localAddr)
      fun result _ => result.1 = if state.addressTaken (fromCoreIpaddr localAddr.ip)
        then .error .addrInUse else .ok () := by
  obtain ⟨closed, unbound, exclusive⟩ := reaches
  have started : Delivers state (self.updateState .closed .closed (bindStart localAddr))
      fun result _ => result.1 = .ok (if state.addressTaken (fromCoreIpaddr localAddr.ip) then .error .addrInUse else .ok ()) := by
    refine updateState_triple (fun _ => ?_) fun other => absurd closed other
    unfold bindStart choosePort portOrEphemeral checkBind
    rw [if_neg nonzero, pure_bind, pure_bind]
    dsimp only
    rw [if_neg (not_not.mpr unbound), exclusive, if_neg Bool.false_ne_true]
    refine (bindCheck_spec state _ _).bind fun checked => .fixed ?_
    rintro now ⟨sameNow, rfl⟩
    rw [sameNow]
    cases taken : state.addressTaken (fromCoreIpaddr localAddr.ip) with
    | true =>
      rw [if_pos (show state.addressTaken (fromCoreSockaddr localAddr).addr = true from taken)]
      exact .pure fun _ _ => rfl
    | false =>
      have free : ¬ state.addressTaken (fromCoreSockaddr localAddr).addr = true := by
        rw [show state.addressTaken (fromCoreSockaddr localAddr).addr = false from taken]
        exact Bool.false_ne_true
      have named : (fromCoreSockaddr localAddr).port ≠ 0 := nonzero
      rw [if_neg free]
      dsimp only
      rw [boundEndpoint_of_port named, pure_bind]
      dsimp only
      rw [← bind_assoc]
      exact .bind (setBound_returns _ live) fun _ => .pure fun _ _ => rfl
  refine started.bind fun result => .fixed fun now decided => ?_
  rw [decided]
  exact .pure fun _ _ => rfl

end Check

def wildcardRun : List CallInput :=
  [⟨.new, []⟩, ⟨.new, []⟩, ⟨.call 0 (.bind ⟨intoCoreIpaddr unspecifiedIp, 6379⟩), []⟩]

def rebindRun : List CallInput :=
  [⟨.new, []⟩, ⟨.call 0 (.bind ⟨intoCoreIpaddr (sourceAddr .eth0), 80⟩), []⟩, ⟨.call 0 .listen, []⟩,
    ⟨.call 0 .shutdown, []⟩]

/-- A socket that starts to connect has the port it was told to connect from. -/
def Smoltcp.ConnectsFrom (smol : Smoltcp) : Prop :=
  ∀ iface remote bound socket socket' endpoint, smol.connect iface remote bound socket = .ok socket' →
    smol.localEndpoint socket' = some endpoint → endpoint.port = bound.port

theorem Smoltcp.small_connectsFrom : Smoltcp.small.ConnectsFrom := by
  intro iface remote bound socket socket' endpoint connected found
  simp only [Smoltcp.small] at connected
  split at connected
  · cases connected
  · split at connected
    · cases connected
    · cases connected
      cases found
      rfl

def Call.drawsPort : Call → Bool
  | .bind localAddr => localAddr.port == 0
  | .connect _ | .listen => true
  | _ => false

namespace TcpSocket

def DrawnFrom (state : NetState smol) (self : TcpSocket) : Prop :=
  self.localAddr.port = 0 ∨ state.Draws self.localAddr.port

variable {state : NetState smol} {self : TcpSocket}

theorem bindStart_drawn (counter : portStart.toNat ≤ state.curr.toNat)
    (unbound : self.localAddr.port = 0) {localAddr : SocketAddr} (zero : localAddr.port = 0) :
    Yields state (bindStart localAddr self) fun result _ => result.2.DrawnFrom state := by
  refine (choosePort_spec localAddr counter).bind fun chosen => MemTriple.fixed ?_
  rintro now ⟨port, curr, rfl, -, rfl, draws⟩
  dsimp only
  split
  · exact .pure fun _ _ => Or.inl unbound
  · have drawn : DrawnFrom state { self with localAddr := fromCoreSockaddr { localAddr with port } } :=
      Or.inr (draws zero)
    refine MemTriple.anything.bind fun checked => ?_
    split
    · exact .pure fun _ _ => drawn
    · refine MemTriple.anything.bind fun bound => ?_
      split
      · exact .pure fun _ _ => drawn
      · exact MemTriple.anything.bind fun _ => MemTriple.anything.bind fun _ => .pure fun _ _ => drawn

theorem bind_drawn (counter : portStart.toNat ≤ state.curr.toNat)
    (unbound : self.localAddr.port = 0) {localAddr : SocketAddr} (zero : localAddr.port = 0) :
    Yields state (self.bind localAddr) fun result _ => result.2.DrawnFrom state := by
  have started : Yields state (self.updateState .closed .closed (bindStart localAddr))
      fun result _ => result.2.DrawnFrom state := by
    refine updateState_triple (fun _ => ?_) fun _ _ _ => Or.inl unbound
    have same : { self with state := .busy }.localAddr.port = 0 := unbound
    refine (bindStart_drawn counter same zero).mono ?_
    rintro ⟨outcome, after⟩ _ drawn
    cases outcome with
    | ok value => exact drawn
    | error error => exact drawn
  refine started.bind fun result => ?_
  split
  · exact .pure fun _ drawn => drawn
  · exact .pure fun _ drawn => drawn

theorem boundEndpoint_drawn (state : NetState smol) (unbound : self.localAddr.port = 0) :
    Yields state self.boundEndpoint fun result _ => ∀ bound, result = .ok bound → state.Draws bound.port := by
  unfold boundEndpoint portOrEphemeral
  rw [if_pos unbound]
  refine (getEphemeralPort_draws state).bind fun chosen => .fixed ?_
  rintro now ⟨port, rfl, draws, rfl⟩
  dsimp only
  split
  · exact panicWith_triple fun _ _ => trivial
  · refine .pure fun _ _ => ?_
    rintro bound ⟨rfl⟩
    exact draws

theorem connectSocket_port (connectsFrom : smol.ConnectsFrom) (iface : Interface)
    (remote : IpEndpoint) (bound : IpListenEndpoint) (handle : SocketHandle)
    {pre : NetState smol → Prop} :
    Leads pre (SocketSetWrapper.withSocketMut handle (connectSocket iface remote bound))
      (fun result _ => ∀ addrs, result = .ok addrs → addrs.1.port = bound.port) := by
  refine withSocketMut_result handle fun socket => ?_
  have attempt : Leads (fun _ : NetState smol => True)
    (locked iface.lock (return smol.connect iface remote bound socket) :
      NetM smol (Except ConnectError smol.Socket)) (fun result _ =>
        result = smol.connect iface remote bound socket) := .locked (.pure fun _ _ => rfl)
  refine attempt.bind fun connected => .fixed fun now same => ?_
  split
  · exact .pure fun _ _ => nofun
  · exact .pure fun _ _ => nofun
  · rename_i socket'
    split
    · rename_i localAddr peerAddr found _
      refine .pure fun _ _ => ?_
      rintro addrs ⟨rfl⟩
      exact connectsFrom iface remote bound socket socket' localAddr same.symm found
    · exact panicWith_triple fun _ _ => trivial

theorem connect_drawn (connectsFrom : smol.ConnectsFrom) {handle : SocketHandle}
    (named : self.handle = some handle) (unbound : self.localAddr.port = 0)
    (remoteAddr : SocketAddr) :
    Yields state (self.connect remoteAddr) fun result _ => result.2.DrawnFrom state := by
  have polling : ∀ other : TcpSocket, other.DrawnFrom state →
      Leads (fun _ : NetState smol => True) other.connectPoll (fun result _ => result.2.DrawnFrom state) := by
    intro other drawn
    have polled : Leads (fun _ : NetState smol => True) other.pollConnect
        (fun result _ => result.2.DrawnFrom state) := by
      refine MemTriple.anything.bind fun handle => .bind (.locked (.read_bind fun now _ => ?_))
        fun writable => .pure fun _ drawn => drawn
      split
      · exact panicWith_triple fun _ _ => trivial
      · dsimp only
        split
        · exact .pure fun _ _ => drawn
        · split
          · exact .pure fun _ _ => drawn
          · exact panicWith_triple fun _ _ => trivial
        · exact .pure fun _ _ => Or.inl rfl
    refine polled.bind fun polled => ?_
    split
    · exact .pure fun _ drawn => drawn
    · split
      · exact .pure fun _ drawn => drawn
      · split
        · exact .pure fun _ drawn => drawn
        · exact .pure fun _ drawn => drawn
  have started : Yields state (self.updateState .closed .connecting (connectStart remoteAddr))
      fun result _ => result.2.DrawnFrom state := by
    refine updateState_triple (fun _ => ?_) fun _ _ _ => Or.inl unbound
    have same : { self with state := .busy }.handle = some handle := named
    unfold connectStart
    rw [handleOrAdd_of_handle same, pure_bind]
    refine (boundEndpoint_drawn state unbound).bind fun bound => ?_
    split
    · exact .pure fun _ _ => Or.inl unbound
    · rename_i bound
      refine MemTriple.fixed fun now draws => (connectSocket_port connectsFrom _ _ bound handle).bind fun result => ?_
      split
      · exact .pure fun _ _ => Or.inl unbound
      · rename_i addrs
        refine .pure fun _ port => Or.inr ?_
        have here : addrs.1.port = bound.port := port addrs rfl
        change state.Draws addrs.1.port
        rw [here]
        exact draws bound rfl
  refine started.bind fun result => ?_
  split
  · exact .pure fun _ drawn => drawn
  · exact .pure fun _ drawn => drawn
  · split
    · exact .pure fun _ drawn => drawn
    · refine MemTriple.fixed fun now drawn => ?_
      exact (blockOn_triple MemTriple.anything polling (fun _ _ _ drawn => ⟨trivial, drawn⟩) trivial
        drawn).startingAt trivial

theorem listen_drawn (unbound : self.localAddr.port = 0) :
    Yields state self.listen fun result _ => result.2.DrawnFrom state := by
  have started : Yields state (self.updateState .closed .listening listenStart)
      fun result _ => result.2.DrawnFrom state := by
    refine updateState_triple (fun _ => ?_) fun _ _ _ => Or.inl unbound
    have same : { self with state := .busy }.localAddr.port = 0 := unbound
    refine (boundEndpoint_drawn state same).bind fun bound => ?_
    split
    · exact .pure fun _ _ => Or.inl unbound
    · rename_i bound
      refine MemTriple.fixed fun now draws => MemTriple.anything.bind fun result => .pure fun _ _ => ?_
      cases result with
      | ok value => exact Or.inr (draws bound rfl)
      | error error => exact Or.inr (draws bound rfl)
  refine started.bind fun result => ?_
  split
  · exact .pure fun _ drawn => drawn
  · exact .pure fun _ drawn => drawn

theorem invoke_drawn (connectsFrom : smol.ConnectsFrom) {handle : SocketHandle}
    (named : self.handle = some handle) (counter : portStart.toNat ≤ state.curr.toNat)
    (unbound : self.localAddr.port = 0) {call : Call} (draws : call.drawsPort = true) :
    Yields state (self.invoke call) fun result _ => result.2.DrawnFrom state := by
  cases call with
  | bind localAddr =>
    have zero : localAddr.port = 0 := beq_iff_eq.mp draws
    exact (bind_drawn counter unbound zero).bind fun _ => .pure fun _ drawn => drawn
  | connect remoteAddr =>
    exact (connect_drawn connectsFrom named unbound remoteAddr).bind fun _ => .pure fun _ drawn => drawn
  | listen => exact (listen_drawn unbound).bind fun _ => .pure fun _ drawn => drawn
  | accept | shutdown | close | send | recv | poll | setNonblocking | setReuseAddr => cases draws

end TcpSocket

namespace NetState

variable {state : NetState smol}

theorem Draws.unique {port other : UInt16} (draws : state.Draws port) (draws' : state.Draws other) :
    port = other := by
  rcases Nat.lt_trichotomy port.toNat other.toNat with before | same | after
  · exact absurd draws.free (draws'.first port.toNat draws.above before)
  · exact UInt16.toNat_inj.mp same
  · exact absurd draws'.free (draws.first other.toNat draws'.above after)

/-- The counter passes the port over: the port lies before it or past the table,
it has a listener, or one before it has none. -/
def PassesOver (state : NetState smol) (port : Nat) : Prop :=
  port < state.curr.toNat ∨ portNum ≤ port ∨ state.listener port ≠ none ∨
    ∃ earlier, state.curr.toNat ≤ earlier ∧ earlier < port ∧ state.listener earlier = none

theorem passesOver_iff (port : UInt16) : state.PassesOver port.toNat ↔ ¬ state.Draws port := by
  constructor
  · rintro (before | past | taken | ⟨earlier, above, below, free⟩) draws
    · exact absurd draws.above (Nat.not_le.mpr before)
    · exact absurd draws.inside (Nat.not_lt.mpr past)
    · exact taken draws.free
    · exact draws.first earlier above below free
  · intro undrawn
    by_contra none
    simp only [PassesOver, not_or, not_exists, not_and, Nat.not_lt, Nat.not_le, not_not] at none
    exact undrawn ⟨none.1, none.2.1, none.2.2.1, none.2.2.2⟩

def OthersPassedOver (state : NetState smol) (id : Nat) : Prop :=
  ∀ (other : Nat) (socket : TcpSocket), other ≠ id → state.socketVec[other]? = some (some socket) →
    socket.localAddr.port ≠ 0 → state.PassesOver socket.localAddr.port.toNat

end NetState

/-- The port that is chosen for a socket is that of no other socket exactly when
the counter passes over all their ports. -/
theorem ephemeral_port_unshared_iff (smol : Smoltcp) (connectsFrom : smol.ConnectsFrom)
    (inputs : List CallInput) (world world' : NetWorld smol)
    (ran : (runAll perform inputs).run (NetWorld.init smol) = .ok () world) (id : Nat)
    (self after : TcpSocket) (found : world.memory.socketVec[id]? = some (some self))
    (unbound : self.localAddr.port = 0) (call : Call) (draws : call.drawsPort = true)
    (accepted : Option TcpSocket)
    (called : (self.invoke call).run world = .ok (accepted, after) world')
    (assigned : after.localAddr.port ≠ 0) :
    (∀ (other : Nat) (socket : TcpSocket), other ≠ id → world'.memory.socketVec[other]? = some (some socket) →
        socket.localAddr.port ≠ after.localAddr.port) ↔
      world.memory.OthersPassedOver id := by
  have registered := run_registered ran
  obtain ⟨handle, named⟩ := (registered.sockets id self found).named
  have table : world'.memory.socketVec = world.memory.socketVec :=
    ((invoke_registers registered found call).triple.of_run rfl called).tame.table
  have drawn : world.memory.Draws after.localAddr.port :=
    ((TcpSocket.invoke_drawn connectsFrom named registered.counter unbound draws).triple.of_run rfl
      called).resolve_left
      assigned
  rw [table]
  constructor
  · intro unshared other socket different stored bound
    rw [NetState.passesOver_iff]
    intro draws'
    exact unshared other socket different stored (draws'.unique drawn)
  · intro passed other socket different stored same
    have bound : socket.localAddr.port ≠ 0 := same ▸ assigned
    exact (NetState.passesOver_iff _).mp (passed other socket different stored bound) (same ▸ drawn)

/-- A server is bound to port 6379, and a second socket is given port 4096. -/
theorem ephemeral_port_unshared_iff_boundRun :
    let world := finalState ((runAll perform boundRun).run (NetWorld.init .small))
    let called := (unboundSocket.invoke (.bind ⟨.v4 #v[0, 0, 0, 0], 0⟩)).run world
    ∃ after, returnValue called = some (none, after) ∧
      ((∀ (other : Nat) (socket : TcpSocket), other ≠ 1 →
          (finalState called).memory.socketVec[other]? = some (some socket) →
            socket.localAddr.port ≠ after.localAddr.port) ↔ world.memory.OthersPassedOver 1) := by
  intro world called
  let after := { unboundSocket with localAddr := ⟨unspecifiedIp, 4096⟩ }
  have ran : returnValue ((runAll perform boundRun).run (NetWorld.init .small)) = some () := by
    decide +kernel
  have returned : returnValue called = some (none, after) := by decide +kernel
  exact ⟨after, returned, ephemeral_port_unshared_iff .small Smoltcp.small_connectsFrom boundRun world _
    (ran_of_returnValue ran) 1 unboundSocket after (by decide +kernel) rfl
      (.bind ⟨.v4 #v[0, 0, 0, 0], 0⟩) rfl none
    (ran_of_returnValue returned) (by decide)⟩

/-- The first socket is bound to the port that the second one is then given. -/
theorem ephemeral_port_shared :
    let ran := (runAll perform [⟨.new, []⟩, ⟨.call 0 (.bind ⟨.v4 #v[0, 0, 0, 0], 4096⟩), []⟩, ⟨.new, []⟩,
      ⟨.call 1 (.bind ⟨.v4 #v[0, 0, 0, 0], 0⟩), []⟩]).run (NetWorld.init .small)
    returnValue ran = some () ∧
      (finalState ran).memory.socketVec.map (Option.map fun socket => socket.localAddr.port) =
        [some 4096, some 4096] := by
  decide +kernel

end RootTaskDemo.Net
