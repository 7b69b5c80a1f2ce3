import RootTaskDemo.Net.Ownership

namespace RootTaskDemo.Net

open Common Lib Thread

variable {smol : Smoltcp} {α : Type} {held : Option SocketHandle} {vec : List (Option TcpSocket)}
variable {self : TcpSocket} {f : TcpSocket → NetM smol (AxResult α × TcpSocket)}

/-! The operations on a socket keep the handles apart, and the socket keeps the
handle it has. -/

theorem counter_nextPort {port : UInt16} (counter : portStart.toNat ≤ port.toNat) :
    portStart.toNat ≤ (nextPort port).toNat := by
  unfold nextPort
  split
  · exact Nat.le_refl _
  · rename_i different
    have below : port.toNat ≠ 65535 := fun same => different (UInt16.toNat_inj.mp same)
    have bound := port.toNat_lt
    rw [UInt16.toNat_add]
    simp only [UInt16.reduceToNat]
    omega

theorem ne_zero_of_counter {port : UInt16} (counter : portStart.toNat ≤ port.toNat) : port ≠ 0 := by
  rintro rfl
  exact absurd counter (by decide)

theorem getEphemeralPort_sound :
    MemTriple (Sound held vec) (getEphemeralPort : NetM smol (AxResult UInt16))
      (fun result state => Sound held vec state ∧ ∀ port, result = .ok port → port ≠ 0) Waits := by
  have loop : ∀ tries, MemTriple (Sound held vec) (ephemeralLoop tries : NetM smol _)
      (fun result state => Sound held vec state ∧ ∀ port, result = .ok port → port ≠ 0) Waits := by
    intro tries
    induction tries with
    | zero => exact .pure fun _ sound => ⟨sound, nofun⟩
    | succ tries ih =>
      refine .read_bind fun state sound => .update_bind ?_
      have moved : Sound held vec { state with curr := nextPort state.curr } :=
        ⟨sound.table, sound.exclusive, sound.queues, counter_nextPort sound.counter⟩
      refine .bind (MemTriple.weaken (ListenTable.canListen_sound state.curr) (fun _ same => same ▸ moved)
        (fun _ _ kept => kept) fun _ waits => waits) fun free => ?_
      split
      · refine .pure fun _ kept => ⟨kept, ?_⟩
        rintro port ⟨rfl⟩
        exact ne_zero_of_counter sound.counter
      · exact ih
  exact .locked (Preserves.followedBy (ListenTable.canListen_sound 6379) fun _ => loop _)

def KeepsHandle (held : Option SocketHandle) (vec : List (Option TcpSocket)) (handle : SocketHandle)
    (program : NetM smol (α × TcpSocket)) : Prop :=
  MemTriple (Sound held vec) program
    (fun result state => Sound held vec state ∧ result.2.handle = some handle) Waits

variable {handle : SocketHandle}

theorem KeepsHandle.of_pure {result : α × TcpSocket} (same : result.2.handle = some handle) :
    KeepsHandle held vec handle (pure result : NetM smol _) :=
  MemTriple.pure fun _ sound => ⟨sound, same⟩

theorem KeepsSound.unchanged {program : NetM smol α} (keeps : KeepsSound held vec program)
    (same : self.handle = some handle) :
    KeepsHandle held vec handle (do
      let result ← program
      return (result, self)) :=
  MemTriple.bind keeps fun _ => KeepsHandle.of_pure same

theorem KeepsHandle.bind {β : Type} {program : NetM smol (α × TcpSocket)}
    {next : α × TcpSocket → NetM smol (β × TcpSocket)} (first : KeepsHandle held vec handle program)
    (rest : ∀ result, result.2.handle = some handle → KeepsHandle held vec handle (next result)) :
    KeepsHandle held vec handle (program >>= next) := by
  refine MemTriple.bind first fun result => .fixed fun state kept => ?_
  exact MemTriple.weaken (rest result kept.2) (fun _ same => same ▸ kept.1) (fun _ _ kept => kept)
    fun _ waits => waits

namespace TcpSocket

theorem updateState_keepsHandle (same : self.handle = some handle) {expect next : SocketState}
    (body : ∀ self, self.handle = some handle → KeepsHandle held vec handle (f self)) :
    KeepsHandle held vec handle (self.updateState expect next f) := by
  refine updateState_triple
    (fun _ => MemTriple.weaken (body _ same) (fun _ sound => sound) ?_ fun _ waits => waits)
    fun _ _ sound => ⟨sound, same⟩
  rintro ⟨outcome, after⟩ state kept
  cases outcome with
  | ok value => exact kept
  | error error => exact kept

theorem blockOn_keepsHandle (lawful : smol.Lawful) (same : self.handle = some handle)
    (body : ∀ self, self.handle = some handle → KeepsHandle held vec handle (f self)) :
    KeepsHandle held vec handle (self.blockOn f) :=
  blockOn_triple (pollInterfaces_sound lawful) body (fun _ _ _ kept => kept) (Or.inl rfl) same

theorem boundEndpoint_sound (self : TcpSocket) :
    MemTriple (Sound held vec) (self.boundEndpoint : NetM smol _)
      (fun result state => Sound held vec state ∧ ∀ bound, result = .ok bound → bound.port ≠ 0) Waits := by
  have chosen : MemTriple (Sound held vec) (portOrEphemeral self.localAddr.port : NetM smol _)
      (fun result state => Sound held vec state ∧ ∀ port, result = .ok port → port ≠ 0) Waits := by
    unfold portOrEphemeral
    split
    · exact getEphemeralPort_sound
    · rename_i nonzero
      refine .pure fun _ sound => ⟨sound, ?_⟩
      rintro port ⟨rfl⟩
      exact nonzero
  refine chosen.bind fun chosen => .fixed fun state kept => ?_
  cases chosen with
  | error error => exact .pure fun _ same => ⟨same ▸ kept.1, nofun⟩
  | ok port =>
    have nonzero := kept.2 port rfl
    dsimp only
    rw [if_neg nonzero]
    refine .pure fun _ same => ⟨same ▸ kept.1, ?_⟩
    rintro bound ⟨rfl⟩
    exact nonzero

theorem handleOrAdd_of_handle (same : self.handle = some handle) :
    (self.handleOrAdd : NetM smol _) = pure handle := by
  rw [handleOrAdd, same]

theorem unwrapHandle_of_handle (same : self.handle = some handle) :
    (self.unwrapHandle : NetM smol _) = pure handle := by
  rw [unwrapHandle, same]

theorem connectSocket_sound (lawful : smol.Lawful) (iface : Interface) (remote : IpEndpoint)
    (bound : IpListenEndpoint) (socket : smol.Socket) :
    KeepsSound held vec (connectSocket iface remote bound socket) := by
  have connecting : MemTriple (Sound held vec)
      (locked iface.lock (return smol.connect iface remote bound socket) :
        NetM smol (Except ConnectError smol.Socket))
      (fun connected state => Sound held vec state ∧ connected = smol.connect iface remote bound socket) Waits :=
    MemTriple.locked (.pure fun _ sound => ⟨sound, rfl⟩)
  refine connecting.bind fun connected => .fixed fun state kept => ?_
  cases connected with
  | error error => cases error <;> exact .pure fun _ now => now ▸ kept.1
  | ok socket' =>
    have synSent := lawful.connected iface remote bound socket socket' kept.2.symm
    have endpoints := lawful.endpoints socket' (by rw [synSent]; exact nofun) (by rw [synSent]; exact nofun)
    obtain ⟨localAddr, localFound⟩ := Option.isSome_iff_exists.mp endpoints.1
    obtain ⟨peerAddr, peerFound⟩ := Option.isSome_iff_exists.mp endpoints.2
    dsimp only
    rw [localFound, peerFound]
    exact .pure fun _ now => now ▸ kept.1

section Lawful

variable (lawful : smol.Lawful) (holds : Holds held vec handle)
include lawful holds

theorem connectStart_keepsHandle (remoteAddr : SocketAddr) (self : TcpSocket)
    (same : self.handle = some handle) :
    KeepsHandle held vec handle (connectStart remoteAddr self : NetM smol _) := by
  unfold connectStart
  rw [handleOrAdd_of_handle same, pure_bind]
  refine (boundEndpoint_sound self).bind fun bound => .fixed fun state kept => ?_
  split
  · exact .pure fun _ now => ⟨now ▸ kept.1, same⟩
  · refine .bind (MemTriple.weaken
      (SocketSetWrapper.withSocketMut_sound holds (connectSocket_sound lawful _ _ _))
      (fun _ now => now ▸ kept.1) (fun _ _ kept => kept) fun _ waits => waits) fun result => ?_
    split
    · exact KeepsHandle.of_pure same
    · exact KeepsHandle.of_pure rfl

theorem pollConnect_keepsHandle (self : TcpSocket) (same : self.handle = some handle) :
    KeepsHandle held vec handle (self.pollConnect : NetM smol _) := by
  unfold pollConnect
  rw [unwrapHandle_of_handle same, pure_bind]
  refine MemTriple.bind (SocketSetWrapper.withSocket_sound (fun state sound => sound.live_of_holds holds)
    fun state socket sound found => ?_) fun writable => .pure fun _ kept => kept
  cases shape : smol.state socket with
  | established =>
    have endpoints := lawful.endpoints socket (by rw [shape]; exact nofun) (by rw [shape]; exact nofun)
    obtain ⟨remote, found⟩ := Option.isSome_iff_exists.mp endpoints.2
    dsimp only
    rw [found]
    exact .pure fun _ now => ⟨now ▸ sound, same⟩
  | _ => exact .pure fun _ now => ⟨now ▸ sound, same⟩

theorem connect_keepsHandle (self : TcpSocket) (same : self.handle = some handle)
    (remoteAddr : SocketAddr) :
    KeepsHandle held vec handle (self.connect remoteAddr : NetM smol _) := by
  have polling : ∀ self : TcpSocket, self.handle = some handle →
      KeepsHandle held vec handle (self.connectPoll : NetM smol _) := by
    intro self same
    refine (pollConnect_keepsHandle lawful holds self same).bind fun polled same => ?_
    split
    · exact .of_pure same
    · split
      · exact .of_pure same
      · split
        · exact .of_pure same
        · exact .of_pure same
  refine .bind (updateState_keepsHandle same (connectStart_keepsHandle lawful holds remoteAddr))
    fun started same => ?_
  split
  · exact .of_pure same
  · exact .of_pure same
  · split
    · exact .of_pure same
    · exact blockOn_keepsHandle lawful same polling

omit lawful in
theorem bind_keepsHandle (self : TcpSocket) (same : self.handle = some handle) (localAddr : SocketAddr) :
    KeepsHandle held vec handle (self.bind localAddr : NetM smol _) := by
  have chosen : KeepsSound held vec (choosePort localAddr : NetM smol _) := by
    have port : KeepsSound held vec (portOrEphemeral localAddr.port : NetM smol _) := by
      unfold portOrEphemeral
      split
      · exact getEphemeralPort_sound.mono fun _ _ kept => kept.1
      · exact .pure
    refine .bind port fun chosen => ?_
    split
    · exact .pure
    · exact .pure
  have checked : ∀ (self : TcpSocket) endpoint,
      KeepsSound held vec (self.checkBind endpoint : NetM smol _) := by
    intro self endpoint
    unfold checkBind
    split
    · exact .pure
    · exact SocketSetWrapper.bindCheck_sound _ _
  have start : ∀ self : TcpSocket, self.handle = some handle →
      KeepsHandle held vec handle (bindStart localAddr self : NetM smol _) := by
    intro self same
    refine Preserves.followedBy chosen fun chosen => ?_
    split
    · exact KeepsHandle.of_pure same
    · split
      · exact KeepsHandle.of_pure same
      · refine Preserves.followedBy (checked _ _) fun checked => ?_
        split
        · exact KeepsHandle.of_pure same
        · refine .bind ((boundEndpoint_sound _).mono fun _ _ kept => kept.1) fun bound => ?_
          split
          · exact KeepsHandle.of_pure same
          · rename_i addr _ _ _ _
            have named : { self with localAddr := fromCoreSockaddr addr }.handle = some handle := same
            rw [handleOrAdd_of_handle named, pure_bind]
            exact Preserves.followedBy (SocketSetWrapper.withSocketMut_sound holds fun _ => .pure)
              fun _ => KeepsHandle.of_pure same
  refine .bind (updateState_keepsHandle same start) fun bound same => ?_
  split
  · exact .of_pure same
  · exact .of_pure same

omit lawful holds in
theorem listen_keepsHandle (self : TcpSocket) (same : self.handle = some handle) :
    KeepsHandle held vec handle (self.listen : NetM smol _) := by
  have start : ∀ self : TcpSocket, self.handle = some handle →
      KeepsHandle held vec handle (self.listenStart : NetM smol _) := by
    intro self same
    refine (boundEndpoint_sound self).bind fun bound => .fixed fun state kept => ?_
    cases bound with
    | error error => exact .pure fun _ now => ⟨now ▸ kept.1, same⟩
    | ok bound =>
      exact MemTriple.weaken ((ListenTable.listen_sound (kept.2 bound rfl)).unchanged same)
        (fun _ now => now ▸ kept.1) (fun _ _ kept => kept) fun _ waits => waits
  refine .bind (updateState_keepsHandle same start) fun started same => ?_
  split
  · exact .of_pure same
  · exact .of_pure same

theorem shutdown_keepsHandle (self : TcpSocket) (same : self.handle = some handle) :
    KeepsHandle held vec handle (self.shutdown : NetM smol _) := by
  have stream : ∀ self : TcpSocket, self.handle = some handle →
      KeepsHandle held vec handle (self.shutdownStream : NetM smol _) := by
    intro self same
    unfold shutdownStream
    rw [unwrapHandle_of_handle same, pure_bind]
    exact Preserves.followedBy (SocketSetWrapper.withSocketMut_sound holds fun _ => .pure) fun _ =>
      Preserves.followedBy (pollInterfaces_sound lawful) fun _ => KeepsHandle.of_pure same
  have listener : ∀ self : TcpSocket, self.handle = some handle →
      KeepsHandle held vec handle (self.shutdownListener : NetM smol _) := fun self same =>
    Preserves.followedBy (ListenTable.unlisten_sound _) fun _ =>
      Preserves.followedBy (pollInterfaces_sound lawful) fun _ => KeepsHandle.of_pure same
  refine .bind (updateState_keepsHandle same stream) fun stopped same => ?_
  split
  · exact .of_pure same
  · refine .bind (updateState_keepsHandle same listener) fun stopped same => ?_
    split
    · exact .of_pure same
    · exact .of_pure same

theorem close_sound (self : TcpSocket) (same : self.handle = some handle) :
    KeepsSound held vec (self.close : NetM smol Unit) := by
  unfold close
  rw [same]
  exact .bind (SocketSetWrapper.withSocketMut_sound holds fun _ => .pure) fun _ =>
    pollInterfaces_sound lawful

theorem onConnected_keepsHandle (self : TcpSocket) (same : self.handle = some handle)
    (once : smol.Socket → AxResult α × smol.Socket) :
    KeepsHandle held vec handle (self.onConnected once) := by
  unfold onConnected
  split
  · exact .of_pure same
  · split
    · exact .of_pure same
    · rw [unwrapHandle_of_handle same, pure_bind]
      exact blockOn_keepsHandle lawful same fun self same =>
        (SocketSetWrapper.withSocketMut_sound holds fun _ => .pure).unchanged same

end Lawful

theorem drop_sound (lawful : smol.Lawful) (self : TcpSocket) (same : self.handle = some handle) :
    MemTriple (Sound (some handle) vec) (self.drop : NetM smol Unit) (fun _ => Sound none vec) Waits := by
  have shut := shutdown_keepsHandle lawful (Or.inl rfl : Holds (some handle) vec handle) self same
  refine .bind shut fun result => .fixed fun state kept => ?_
  rw [kept.2]
  exact (SocketSetWrapper.remove_sound handle).weaken (fun _ now => now ▸ kept.1) (fun _ _ kept => kept)
    fun _ waits => waits

def AcceptLeaves (vec : List (Option TcpSocket)) (self : TcpSocket)
    (result : AxResult TcpSocket × TcpSocket) (state : NetState smol) : Prop :=
  result.2 = self ∧ match result.1 with
    | .ok accepted => accepted.state = .connected ∧
        ∃ handle, accepted.handle = some handle ∧ Sound (some handle) vec state
    | .error _ => Sound none vec state

theorem accept_sound (lawful : smol.Lawful) (self : TcpSocket) :
    MemTriple (Sound none vec) (self.accept : NetM smol _) (AcceptLeaves vec self)
      Waits := by
  have once : ∀ other, other = self →
      MemTriple (Sound none vec) (other.acceptOnce : NetM smol _)
        (AcceptLeaves vec self) Waits := by
    rintro other rfl
    refine (ListenTable.accept_sound lawful _).bind fun accepted => ?_
    cases accepted with
    | error error => exact .pure fun _ sound => ⟨rfl, sound⟩
    | ok value => exact .pure fun _ sound => ⟨rfl, rfl, value.1, rfl, sound⟩
  unfold accept
  split
  · exact .pure fun _ sound => ⟨rfl, sound⟩
  · refine blockOn_triple (pollInterfaces_sound lawful) once ?_ (Or.inl rfl) rfl
    rintro ⟨outcome, after⟩ state waits ⟨same, kept⟩
    cases outcome with
    | error error => exact ⟨kept, same⟩
    | ok accepted => cases waits

end TcpSocket

end RootTaskDemo.Net
