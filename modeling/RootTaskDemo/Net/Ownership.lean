import RootTaskDemo.Lib.Ownership
import RootTaskDemo.Net.Tcp

namespace RootTaskDemo.Net

open Common Lib Thread
open Function (update_self update_of_ne)

variable {smol : Smoltcp} {α : Type} {state : NetState smol} {handle : SocketHandle}
  {slot : Fin portNum}
variable {entry : Option ListenTableEntry}
variable {post : α → NetState smol → Prop} {pre : NetState smol → Prop}
  {queue rest : List SocketHandle}

/-! Who holds which handle of the socket set: a socket of the table, the queue of
a listener, or the operation that is just running. No handle has two holders, so
what one of them removes from the set no other one misses. -/

inductive Owner where
  | caller
  | socket (id : Nat)
  | listener (slot : Fin portNum)

variable (held : Option SocketHandle) (vec : List (Option TcpSocket))

def Owns (table : Fin portNum → Option ListenTableEntry) : Owner → SocketHandle → Prop
  | .caller, handle => held = some handle
  | .socket id, handle =>
    ∃ socket : TcpSocket, vec[id]? = some (some socket) ∧ socket.handle = some handle
  | .listener slot, handle => ∃ entry, table slot = some entry ∧ handle ∈ entry.synQueue

structure Sound (state : NetState smol) : Prop where
  table : state.socketVec = vec
  exclusive : Exclusive (Owns held vec state.listenTable) (fun handle => handle ∈ state.sockets)
  queues : ∀ slot entry, state.listenTable slot = some entry → entry.synQueue.Nodup
  counter : portStart.toNat ≤ state.curr.toNat

/-- A run waits, or it leaves the listen table or the heap. -/
def Waits (fault : Fault) : Prop :=
  fault = .blocked ∨ (∃ port, fault = .panicked (.listenTableIndex port)) ∨
    fault = .panicked .outOfMemory

def KeepsSound (program : NetM smol α) : Prop := Preserves (Sound held vec) Waits program

/-- The handle belongs to a socket of the table or to the running operation. -/
def Holds (handle : SocketHandle) : Prop :=
  held = some handle ∨ ∃ (id : Nat) (socket : TcpSocket), vec[id]? = some (some socket) ∧
    socket.handle = some handle

variable {held vec}

theorem Holds.owner (holds : Holds held vec handle)
    (table : Fin portNum → Option ListenTableEntry) :
    ∃ owner, (∀ slot, owner ≠ .listener slot) ∧ Owns held vec table owner handle := by
  rcases holds with mine | ⟨id, socket, found, same⟩
  · exact ⟨.caller, fun _ => Owner.noConfusion, mine⟩
  · exact ⟨.socket id, fun _ => Owner.noConfusion, socket, found, same⟩

namespace Sound

variable {state : NetState smol} {handle : SocketHandle}

theorem live_of_holds (sound : Sound held vec state) (holds : Holds held vec handle) :
    handle ∈ state.sockets := by
  obtain ⟨owner, -, owned⟩ := holds.owner state.listenTable
  exact sound.exclusive.live owner handle owned

theorem live_of_queued (sound : Sound held vec state) {entry : ListenTableEntry}
    (listening : state.listenTable slot = some entry) (queued : handle ∈ entry.synQueue) :
    handle ∈ state.sockets :=
  sound.exclusive.live (.listener slot) handle ⟨entry, listening, queued⟩

theorem release (sound : Sound held vec state) : Sound none vec state := by
  refine ⟨sound.table, sound.exclusive.mono ?_ fun _ live => live, sound.queues, sound.counter⟩
  intro owner key owned
  cases owner with
  | caller => cases owned
  | socket id => exact owned
  | listener slot => exact owned

theorem of_sockets (sound : Sound held vec state) {sockets : SocketSet smol.Socket}
    (kept : ∀ handle, handle ∈ state.sockets → handle ∈ sockets) :
    Sound held vec { state with sockets } :=
  ⟨sound.table, sound.exclusive.mono (fun _ _ owned => owned) kept, sound.queues, sound.counter⟩

end Sound

theorem TcpSocket.new_sound (lawful : smol.Lawful) :
    MemTriple (Sound none vec) (TcpSocket.new : NetM smol _)
      (fun socket state => ∃ handle, socket.handle = some handle ∧ Sound (some handle) vec state) Waits := by
  refine .fixed fun state sound => .bind ((SocketSetWrapper.newTcpSocket_spec state).onStop
    fun _ full => Or.inr (Or.inr full.1)) fun socket => .bind ?_ fun handle =>
      MemTriple.pure fun now (owned : Sound (some handle) vec now) => ⟨handle, rfl, owned⟩
  refine .locked (.read_bind ?_)
  rintro state ⟨rfl, -⟩
  refine .update_bind (.pure ?_)
  rintro _ rfl
  have older : ∀ owner key, Owns none vec state.listenTable owner key →
      key ≠ smol.freshHandle state.sockets := by
    rintro owner key owned rfl
    exact lawful.freshHandle state.sockets (sound.exclusive.live owner _ owned)
  refine ⟨sound.table, sound.exclusive.give .caller (smol.freshHandle state.sockets) ?_ ?_
    Std.TreeMap.mem_insert_self, sound.queues, sound.counter⟩
  · intro owner key owned
    cases owner with
    | caller => exact Or.inl ⟨(Option.some.inj owned).symm, rfl⟩
    | socket id => exact Or.inr ⟨older (.socket id) key owned, owned⟩
    | listener slot => exact Or.inr ⟨older (.listener slot) key owned, owned⟩
  · exact fun key live => Std.TreeMap.mem_insert.mpr (Or.inr live)

namespace SocketSetWrapper

theorem withSocket_sound {f : smol.Socket → NetM smol α}
    (live : ∀ state, pre state → handle ∈ state.sockets)
    (body : ∀ state socket, pre state → state.sockets[handle]? = some socket →
      RunFrom state (f socket) post Waits) :
    MemTriple pre (withSocket handle f) post Waits :=
  MemTriple.fixed fun state holds => withSocket_spec (fun socket found => body state socket holds found)
    fun missing => absurd (live state holds) missing

theorem withSocketMut_sound (holds : Holds held vec handle)
    {f : smol.Socket → NetM smol (α × smol.Socket)} (body : ∀ socket, KeepsSound held vec (f socket)) :
    KeepsSound held vec (withSocketMut handle f) := by
  refine .locked (.read_bind fun state sound => ?_)
  split
  · rename_i missing
    have live := sound.live_of_holds holds
    rw [Std.TreeMap.mem_iff_isSome_getElem?, missing] at live
    cases live
  · refine .bind (body _) fun result => .bind (.update fun state sound => ?_)
      fun _ => .pure
    exact sound.of_sockets fun key live => Std.TreeMap.mem_insert.mpr (Or.inr live)

theorem bindCheck_sound (addr : IpAddress) (port : UInt16) :
    KeepsSound held vec (bindCheck addr port : NetM smol _) := by
  refine .locked (.read_bind fun state _ => ?_)
  split
  · exact .pure
  · exact .pure

theorem remove_sound (handle : SocketHandle) :
    MemTriple (Sound (some handle) vec) (remove handle : NetM smol Unit) (fun _ => Sound none vec) Waits := by
  refine .locked (.read_bind fun state sound => ?_)
  have mine : Owns (some handle) vec state.listenTable .caller handle := rfl
  cases found : state.sockets[handle]? with
  | none =>
    have live := sound.exclusive.live .caller handle mine
    rw [Std.TreeMap.mem_iff_isSome_getElem?, found] at live
    cases live
  | some socket =>
    refine .update ?_
    rintro state rfl
    refine ⟨sound.table, sound.exclusive.retire handle ?_ ?_, sound.queues, sound.counter⟩
    · intro owner key owned
      have still : owner ≠ .caller ∧ Owns (some handle) vec state.listenTable owner key := by
        cases owner with
        | caller => cases owned
        | socket id => exact ⟨Owner.noConfusion, owned⟩
        | listener slot => exact ⟨Owner.noConfusion, owned⟩
      refine ⟨?_, still.2⟩
      rintro rfl
      exact still.1 (sound.exclusive.unique owner .caller key still.2 mine)
    · intro key different live
      exact Std.TreeMap.mem_erase.mpr ⟨fun same => different (compare_eq_iff_eq.mp same).symm, live⟩

end SocketSetWrapper

theorem lockSlot_sound {port : UInt16} {body : Fin portNum → NetM smol α}
    (inner : ∀ slot, MemTriple pre (body slot) post Waits) :
    MemTriple pre (ListenTable.lockSlot port body) post Waits := by
  unfold ListenTable.lockSlot
  split
  · exact .locked (inner _)
  · exact panicWith_triple fun _ _ => Or.inr (Or.inl ⟨_, rfl⟩)

theorem owns_update {table : Fin portNum → Option ListenTableEntry}
    {owner : Owner} {key : SocketHandle} :
    Owns held vec (Function.update table slot entry) owner key ↔
      (owner = .listener slot ∧ ∃ changed, entry = some changed ∧ key ∈ changed.synQueue) ∨
        (owner ≠ .listener slot ∧ Owns held vec table owner key) := by
  cases owner with
  | caller => simp [Owns]
  | socket id => simp [Owns]
  | listener other =>
    by_cases same : other = slot
    · simp [Owns, same]
    · simp [Owns, same]

theorem nodup_update {table : Fin portNum → Option ListenTableEntry}
    (others : ∀ other, other ≠ slot → ∀ entry, table other = some entry → entry.synQueue.Nodup)
    (changed : ∀ changed, entry = some changed → changed.synQueue.Nodup) (other : Fin portNum)
    (entry' : ListenTableEntry) (listening : Function.update table slot entry other = some entry') :
    entry'.synQueue.Nodup := by
  by_cases same : other = slot
  · rw [same, update_self] at listening
    exact changed entry' listening
  · rw [update_of_ne same] at listening
    exact others other same entry' listening

theorem Sound.setEntry {held' : Option SocketHandle}
    (sound : Sound held vec state)
    (exclusive : Exclusive (Owns held' vec (Function.update state.listenTable slot entry))
      (fun handle => handle ∈ state.sockets))
    (nodup : ∀ changed, entry = some changed → changed.synQueue.Nodup) :
    Sound held' vec (state.setEntry slot entry) :=
  ⟨sound.table, exclusive, nodup_update (fun other _ => sound.queues other) nodup, sound.counter⟩

theorem Sound.clearEntry (kept : Sound held vec (state.setEntry slot entry)) :
    Sound held vec (state.setEntry slot none) := by
  refine ⟨kept.table, kept.exclusive.mono ?_ fun _ live => live, ?_, kept.counter⟩
  · intro owner key owned
    rcases owns_update.mp owned with ⟨-, changed, impossible, -⟩ | other
    · cases impossible
    · exact owns_update.mpr (Or.inr other)
  · refine nodup_update (fun other different entry' listening => kept.queues other entry' ?_) nofun
    exact (update_of_ne different _ _).trans listening

theorem Sound.take {entry : ListenTableEntry}
    (sound : Sound none vec state)
    (listener : state.listenTable slot = some entry) (perm : (handle :: rest).Perm entry.synQueue) :
    Sound (some handle) vec (state.setEntry slot (some { entry with synQueue := rest })) := by
  have nodup := List.nodup_cons.mp (perm.nodup_iff.mpr (sound.queues slot entry listener))
  have queued : ∀ other, other ∈ handle :: rest →
    Owns none vec state.listenTable (.listener slot) other :=
    fun other member => ⟨entry, listener, perm.mem_iff.mp member⟩
  have mine := queued handle (List.mem_cons_self ..)
  refine sound.setEntry (sound.exclusive.give .caller handle ?_ (fun _ live => live)
    (sound.exclusive.live _ handle mine)) ?_
  · intro owner key owned
    rcases owns_update.mp owned with ⟨rfl, changed, ⟨rfl⟩, member⟩ | ⟨other, owned⟩
    · exact Or.inr ⟨fun same => nodup.1 (same ▸ member), queued key (List.mem_cons_of_mem _ member)⟩
    · have elsewhere : Owns none vec state.listenTable owner key → key ≠ handle := by
        rintro before rfl
        exact other (sound.exclusive.unique owner _ key before mine)
      cases owner with
      | caller => exact Or.inl ⟨(Option.some.inj owned).symm, rfl⟩
      | socket id => exact Or.inr ⟨elsewhere owned, owned⟩
      | listener slot' => exact Or.inr ⟨elsewhere owned, owned⟩
  · rintro changed ⟨rfl⟩
    exact nodup.2

theorem Sound.enqueue {entry : ListenTableEntry} (sound : Sound held vec state)
    (lawful : smol.Lawful) (listener : state.listenTable slot = some entry) (socket : smol.Socket) :
    Sound held vec (NetState.setEntry
      { state with sockets := state.sockets.insert (smol.freshHandle state.sockets) socket } slot
      (some { entry with synQueue := entry.synQueue ++ [smol.freshHandle state.sockets] })) := by
  have older : ∀ owner key, Owns held vec state.listenTable owner key →
      key ≠ smol.freshHandle state.sockets := by
    rintro owner key owned rfl
    exact lawful.freshHandle state.sockets (sound.exclusive.live owner _ owned)
  have queued : ∀ key ∈ entry.synQueue, Owns held vec state.listenTable (.listener slot) key :=
    fun key member => ⟨entry, listener, member⟩
  refine ⟨sound.table, sound.exclusive.give (.listener slot) (smol.freshHandle state.sockets) ?_ ?_
    Std.TreeMap.mem_insert_self, ?_, sound.counter⟩
  · intro owner key owned
    rcases owns_update.mp owned with ⟨rfl, changed, ⟨rfl⟩, member⟩ | ⟨-, owned⟩
    · rcases List.mem_append.mp member with member | member
      · exact Or.inr ⟨older _ key (queued key member), queued key member⟩
      · exact Or.inl ⟨List.mem_singleton.mp member, rfl⟩
    · exact Or.inr ⟨older owner key owned, owned⟩
  · exact fun key live => Std.TreeMap.mem_insert.mpr (Or.inr live)
  · refine nodup_update (fun other _ => sound.queues other) ?_
    rintro changed ⟨rfl⟩
    refine List.nodup_append.mpr ⟨sound.queues slot entry listener, List.pairwise_singleton _ _, ?_⟩
    intro key member other last
    rw [List.mem_singleton.mp last]
    exact older _ key (queued key member)

namespace ListenTable

theorem canListen_sound (port : UInt16) : KeepsSound held vec (canListen port : NetM smol Bool) :=
  lockSlot_sound fun _ => Preserves.read_bind fun _ _ => .pure

theorem listen_sound {listenEndpoint : IpListenEndpoint} (nonzero : listenEndpoint.port ≠ 0) :
    KeepsSound held vec (listen listenEndpoint : NetM smol _) := by
  unfold listen
  rw [if_neg nonzero]
  refine lockSlot_sound fun slot => .read_bind fun state sound => ?_
  split
  · refine .update_bind (.pure ?_)
    rintro _ rfl
    refine sound.setEntry (sound.exclusive.mono ?_ fun _ live => live) ?_
    · intro owner key owned
      rcases owns_update.mp owned with ⟨-, changed, ⟨rfl⟩, queued⟩ | ⟨-, owned⟩
      · cases queued
      · exact owned
    · rintro entry ⟨rfl⟩
      exact List.nodup_nil
  · refine .pure ?_
    rintro _ rfl
    exact sound

theorem dropQueue_sound (slot : Fin portNum) (listenEndpoint : IpListenEndpoint)
    (queue : List SocketHandle) :
    MemTriple (fun state : NetState smol => Sound held vec (state.setEntry slot (some ⟨listenEndpoint, queue⟩)))
      (ListenTableEntry.dropQueue queue)
      (fun _ state => Sound held vec (state.setEntry slot (some ⟨listenEndpoint, []⟩))) Waits := by
  induction queue with
  | nil => exact .pure fun _ sound => sound
  | cons handle rest ih =>
    refine .bind (.locked (.read_bind fun state sound => ?_)) fun _ => ih
    have queued : Owns held vec (Function.update state.listenTable slot (some ⟨listenEndpoint, handle :: rest⟩))
        (.listener slot) handle :=
      owns_update.mpr (Or.inl ⟨rfl, _, rfl, List.mem_cons_self ..⟩)
    have nodup := List.nodup_cons.mp (sound.queues slot _ (update_self ..))
    cases found : state.sockets[handle]? with
    | none =>
      have live := sound.exclusive.live _ handle queued
      rw [setEntry_sockets, Std.TreeMap.mem_iff_isSome_getElem?, found] at live
      cases live
    | some socket =>
      refine .update ?_
      rintro state rfl
      refine ⟨sound.table, sound.exclusive.retire handle ?_ ?_, ?_, sound.counter⟩
      · intro owner key owned
        rcases owns_update.mp owned with ⟨rfl, changed, ⟨rfl⟩, member⟩ | ⟨other, owned⟩
        · refine ⟨fun same => nodup.1 (same ▸ member), owns_update.mpr (Or.inl ⟨rfl, _, rfl, ?_⟩)⟩
          exact List.mem_cons_of_mem _ member
        · have before : Owns held vec (Function.update state.listenTable slot
              (some ⟨listenEndpoint, handle :: rest⟩)) owner key := owns_update.mpr (Or.inr ⟨other, owned⟩)
          refine ⟨?_, before⟩
          rintro rfl
          exact other (sound.exclusive.unique owner _ key before queued)
      · intro key different live
        exact Std.TreeMap.mem_erase.mpr ⟨fun same => different (compare_eq_iff_eq.mp same).symm, live⟩
      · refine nodup_update (fun other different entry listening => sound.queues other entry ?_) ?_
        · exact (update_of_ne different _ _).trans listening
        · rintro changed ⟨rfl⟩
          exact nodup.2

theorem unlisten_sound (port : UInt16) : KeepsSound held vec (unlisten port : NetM smol Unit) := by
  refine lockSlot_sound fun slot => .read_bind fun state sound => ?_
  have dropped : RunFrom state (dropEntry (state.listenTable slot))
      (fun _ now => ∃ entry, Sound held vec (now.setEntry slot entry)) Waits := by
    rw [← setEntry_self state slot] at sound
    cases listener : state.listenTable slot with
    | none =>
      refine .pure ?_
      rintro state rfl
      exact ⟨state.listenTable slot, sound⟩
    | some entry =>
      refine (dropQueue_sound slot entry.listenEndpoint entry.synQueue).weaken ?_
        (fun _ _ kept => ⟨_, kept⟩) fun _ waits => waits
      rintro state rfl
      rwa [listener] at sound
  exact dropped.bind fun _ => .update fun now kept => kept.elim fun entry kept => kept.clearEntry

theorem findConnected_sound (queue : List SocketHandle) (state : NetState smol)
    (live : ∀ handle ∈ queue, handle ∈ state.sockets) :
    RunFrom state (findConnected queue)
      (fun found now => now = state ∧ found = queue.findIdx? state.connected) Waits := by
  refine (findConnected_spec state queue).onStop ?_
  rintro _ ⟨handle, member, missing⟩
  exact absurd (live handle member) missing

theorem swapRemoveFront_perm {index : Nat}
    (removed : swapRemoveFront queue index = some (handle, rest)) : (handle :: rest).Perm queue := by
  cases queue with
  | nil => cases removed
  | cons front tail =>
    cases index with
    | zero =>
      cases removed
      exact List.Perm.refl _
    | succ index =>
      cases found : tail[index]? with
      | none => simp [swapRemoveFront, found] at removed
      | some other =>
        simp only [swapRemoveFront, found, Option.map_some, Option.some.injEq, Prod.mk.injEq] at removed
        obtain ⟨rfl, rfl⟩ := removed
        have exchanged := List.getD_set_perm_cons tail index front
        rwa [found, Option.getD_some] at exchanged

theorem swapRemoveFront_isSome {index : Nat} (inside : index < queue.length) :
    ∃ handle rest, swapRemoveFront queue index = some (handle, rest) := by
  cases queue with
  | nil => cases inside
  | cons front tail =>
    cases index with
    | zero => exact ⟨front, tail, rfl⟩
    | succ index =>
      have shorter : index < tail.length := Nat.lt_of_succ_lt_succ inside
      have found := List.getElem?_eq_getElem shorter
      refine ⟨tail[index], tail.set index front, ?_⟩
      rw [swapRemoveFront, found, Option.map_some]

theorem accept_sound (lawful : smol.Lawful) (port : UInt16) :
    MemTriple (Sound none vec) (accept port : NetM smol _)
      (fun result state => match result with
        | .ok (handle, _) => Sound (some handle) vec state
        | .error _ => Sound none vec state) Waits := by
  refine lockSlot_sound fun slot => .read_bind fun state sound => ?_
  cases listener : state.listenTable slot with
  | none =>
    refine .pure ?_
    rintro _ rfl
    exact sound
  | some entry =>
    have live : ∀ handle ∈ entry.synQueue, handle ∈ state.sockets := fun handle queued =>
      sound.live_of_queued listener queued
    refine (findConnected_sound entry.synQueue state live).bind fun found => .fixed ?_
    rintro state ⟨rfl, rfl⟩
    cases first : entry.synQueue.findIdx? state.connected with
    | none =>
      refine .pure ?_
      rintro _ rfl
      exact sound
    | some index =>
      obtain ⟨inside, ready, -⟩ := List.findIdx?_eq_some_iff_getElem.mp first
      obtain ⟨handle, rest, removed⟩ := swapRemoveFront_isSome inside
      have taken := swapRemoveFront_fst removed
      rw [List.getElem?_eq_getElem inside] at taken
      cases taken
      have perm := swapRemoveFront_perm removed
      have alive := live _ (perm.mem_iff.mp (List.mem_cons_self ..))
      have passed := sound.take listener perm
      dsimp only
      rw [removed]
      refine .update_bind ?_
      refine .bind ((isClosed_spec _ _).onStop
          fun _ missing => absurd alive missing) fun closed => .fixed ?_
      rintro now ⟨rfl, socket, found, rfl⟩
      split
      · refine .pure ?_
        rintro _ rfl
        exact passed.release
      · rename_i notClosed
        rw [setEntry_sockets] at found
        simp only [NetState.connected, found] at ready
        have endpoints := lawful.endpoints socket (fun closed => notClosed (beq_iff_eq.mpr closed)) (by
          intro listening
          rw [listening] at ready
          cases ready)
        refine .bind (SocketSetWrapper.withSocket_spec ?_ fun missing => absurd alive missing)
          fun addrs => .pure fun now kept => kept
        intro socket' found'
        cases found.symm.trans found'
        split
        · refine .pure ?_
          rintro _ rfl
          exact passed
        · rename_i absent
          obtain ⟨localAddr, localFound⟩ := Option.isSome_iff_exists.mp endpoints.1
          obtain ⟨peerAddr, peerFound⟩ := Option.isSome_iff_exists.mp endpoints.2
          exact absurd peerFound (absent localAddr peerAddr localFound)

theorem incomingTcpPacket_sound (lawful : smol.Lawful) (src dst : IpEndpoint) :
    KeepsSound held vec (incomingTcpPacket src dst : NetM smol Unit) := by
  refine lockSlot_sound fun slot => .read_bind fun state sound => ?_
  have unchanged : RunFrom state (pure () : NetM smol Unit) (fun _ => Sound held vec) Waits :=
    MemTriple.pure fun _ same => same ▸ sound
  cases listener : state.listenTable slot with
  | none => exact unchanged
  | some entry =>
    dsimp only
    split
    · exact unchanged
    · split
      · exact unchanged
      · refine .bind ((SocketSetWrapper.newTcpSocket_spec state).onStop fun _ full => Or.inr (Or.inr full.1))
          fun socket => .fixed ?_
        rintro _ ⟨rfl, -⟩
        split
        · exact unchanged
        · refine .update_bind (.update ?_)
          rintro _ rfl
          exact sound.enqueue lawful listener _

end ListenTable

section Polling

variable (lawful : smol.Lawful)
include lawful

theorem preprocess_sound (iface : Interface) (frame : List UInt8) :
    KeepsSound held vec (preprocess smol iface frame) := by
  obtain ⟨-, result, same⟩ | ⟨src, dst, -, same⟩ := preprocess_cases smol iface frame
  · rw [same]
    exact .pure
  · rw [same]
    exact .bind (ListenTable.incomingTcpPacket_sound lawful src dst) fun _ => .pure

theorem pollInterface_sound (iface : Interface) (frames : List (List UInt8)) :
    KeepsSound held vec (pollInterface iface frames : NetM smol Unit) := by
  have mapped : ∀ (state : NetState smol) (f : SocketHandle → smol.Socket → smol.Socket),
      Sound held vec state → Sound held vec { state with sockets := state.sockets.map f } := by
    intro state f sound
    exact sound.of_sockets fun key live => Std.TreeMap.mem_map.mpr live
  induction frames with
  | nil => exact .update fun state sound => mapped state _ sound
  | cons frame rest ih =>
    exact .bind (preprocess_sound lawful iface frame) fun _ =>
      Preserves.bind (.update fun state sound => mapped state _ sound) fun _ => ih

theorem pollInterfaces_sound : KeepsSound held vec
    (SocketSetWrapper.pollInterfaces : NetM smol Unit) := by
  have next : KeepsSound held vec (nextBatch : NetM smol Batch) := by
    refine .read_bind fun state _ => ?_
    split
    · exact .pure
    · refine .bind (.update fun state sound => ?_) fun _ => .pure
      exact ⟨sound.table, sound.exclusive, sound.queues, sound.counter⟩
  exact .bind next fun batch =>
    Preserves.bind (.locked (.locked (.locked (pollInterface_sound lawful _ _)))) fun _ =>
      Preserves.locked (.locked (.locked (pollInterface_sound lawful _ _)))

end Polling

end RootTaskDemo.Net
