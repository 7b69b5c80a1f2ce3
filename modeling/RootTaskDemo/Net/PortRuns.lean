import RootTaskDemo.Lib.Runs
import RootTaskDemo.Net.Ports

namespace RootTaskDemo.Net

open Common Lib Thread

variable {smol : Smoltcp}

/-! Runs of the operations that a `TcpSocket` offers, in any order and on any
socket. The sockets stand in the table under the number they were made with. -/

inductive Call where
  | bind (localAddr : SocketAddr)
  | listen
  | accept
  | connect (remoteAddr : SocketAddr)
  | shutdown
  | close
  | send (buf : List UInt8)
  | recv (len : Nat)
  | poll
  | setNonblocking (nonblocking : Bool)
  | setReuseAddr (reuse : Bool)

inductive Action where
  | new
  | call (id : Nat) (operation : Call)
  | drop (id : Nat)

/-- An action together with the frames that arrive before the next one. -/
structure CallInput where
  action : Action
  arrivals : List Batch

def ignoringResult {α : Type} (program : NetM smol (α × TcpSocket)) :
    NetM smol (Option TcpSocket × TcpSocket) := do
  let result ← program
  return (none, result.2)

/-- The call leaves the socket it was made on and, when it accepts, a new one. -/
def TcpSocket.invoke (self : TcpSocket) : Call → NetM smol (Option TcpSocket × TcpSocket)
  | .bind localAddr => ignoringResult (self.bind localAddr)
  | .listen => ignoringResult self.listen
  | .accept => do
    let result ← self.accept
    return (result.1.toOption, result.2)
  | .connect remoteAddr => ignoringResult (self.connect remoteAddr)
  | .shutdown => ignoringResult self.shutdown
  | .close => do
    self.close
    return (none, self)
  | .send buf => ignoringResult (self.send buf)
  | .recv len => ignoringResult (self.recv len)
  | .poll => ignoringResult self.poll
  | .setNonblocking nonblocking => return (none, { self with nonblock := nonblocking })
  | .setReuseAddr reuse => return (none, { self with reuseAddr := reuse })

def pushSocket (socket : TcpSocket) : NetM smol Unit :=
  update fun state => { state with socketVec := state.socketVec ++ [some socket] }

def perform (input : CallInput) : NetM smol Unit := do
  update fun state => { state with incoming := state.incoming ++ input.arrivals }
  match input.action with
  | .new => do
    let socket ← TcpSocket.new
    pushSocket socket
  | .call id operation => do
    let state ← read
    match state.socketVec[id]? with
    | some (some self) => do
      let result ← self.invoke operation
      update fun state => { state with socketVec := state.socketVec.set id (some result.2) }
      match result.1 with
      | some accepted => pushSocket accepted
      | none => return ()
    | _ => return ()
  | .drop id => do
    let state ← read
    match state.socketVec[id]? with
    | some (some self) => do
      update fun state => { state with socketVec := state.socketVec.set id none }
      self.drop
    | _ => return ()

/-- A closed socket is bound, connected or made to listen only with a port that
has a slot, chosen or given. Nothing is asked of the other calls. -/
def TcpSocket.PortsOk (self : TcpSocket) (state : NetState smol) : Call → Prop
  | .bind localAddr => self.state = .closed → PortAvailable localAddr.port state
  | .connect _ => self.state = .closed → PortAvailable self.localAddr.port state
  | .listen => self.state = .closed → self.ListenAvailable state
  | _ => True

instance (self : TcpSocket) (state : NetState smol) : DecidablePred (self.PortsOk state)
  | .bind _ | .connect _ | .listen => inferInstanceAs (Decidable (_ → _))
  | .accept | .shutdown | .close | .send _ | .recv _ | .poll | .setNonblocking _ | .setReuseAddr _ => isTrue trivial

def Action.PortsOk (state : NetState smol) : Action → Prop
  | .call id operation => ∀ self ∈ state.socketVec[id]?.join, self.PortsOk state operation
  | _ => True

instance (state : NetState smol) : DecidablePred (Action.PortsOk state)
  | .call id _ => inferInstanceAs (Decidable (∀ self ∈ state.socketVec[id]?.join, _))
  | .new | .drop _ => isTrue trivial

def CallInput.PortsOk (input : CallInput) (state : NetState smol) : Prop :=
  (∀ batch ∈ input.arrivals, batch.InRange smol) ∧ input.action.PortsOk state

instance (input : CallInput) (state : NetState smol) : Decidable (input.PortsOk state) :=
  inferInstanceAs (Decidable (_ ∧ _))

def GoodCall (result : Option TcpSocket × TcpSocket) : Prop :=
  result.2.InRange ∧ ∀ accepted ∈ result.1, accepted.InRange

theorem ignoringResult_keepsPorts {α : Type} {pre : NetState smol → Prop}
    {program : NetM smol (α × TcpSocket)}
    (keeps : MemTriple pre program (fun result state => PortsInvariant False 0 state ∧
      result.2.InRange) (NotIndex False)) :
    MemTriple pre (ignoringResult program) (fun result state => PortsInvariant False 0 state ∧
      GoodCall result) (NotIndex False) :=
  keeps.bind fun _ => .pure fun _ kept => ⟨kept.1, kept.2, nofun⟩

theorem invoke_spec (self : TcpSocket) (inRange : self.InRange) (call : Call) :
    MemTriple (fun state : NetState smol => PortsInvariant False 0 state ∧ self.PortsOk state call)
      (self.invoke call)
      (fun result state => PortsInvariant False 0 state ∧ GoodCall result) (NotIndex False) := by
  have entering :
    ∀ {α : Type} {program : NetM smol α} {post : α → NetState smol → Prop} {operation : Call},
      MemTriple (PortsInvariant False 0) program post (NotIndex False) →
        MemTriple (fun state => PortsInvariant False 0 state ∧ self.PortsOk state operation) program post (NotIndex False) :=
    fun keeps => keeps.weaken (fun _ holds => holds.1) (fun _ _ kept => kept) fun _ other => other
  cases call with
  | bind localAddr => exact ignoringResult_keepsPorts (self.bind_spec inRange nofun localAddr)
  | listen => exact ignoringResult_keepsPorts (self.listen_spec inRange)
  | connect remoteAddr => exact ignoringResult_keepsPorts (self.connect_spec inRange nofun remoteAddr)
  | accept =>
    refine .bind (MemTriple.weaken (self.accept_keepsPorts inRange) (fun _ holds => holds.1)
      (fun _ _ kept => kept) fun _ other => other) fun result => .pure fun _ kept => ?_
    refine ⟨kept.1, kept.2.1, fun accepted taken => kept.2.2 accepted ?_⟩
    cases outcome : result.1 with
    | error error =>
      rw [outcome] at taken
      cases taken
    | ok socket =>
      rw [outcome] at taken
      cases taken
      rfl
  | shutdown => exact ignoringResult_keepsPorts (entering (self.shutdown_keepsPorts inRange))
  | close =>
    exact .bind (entering self.close_keepsPorts) fun _ =>
      MemTriple.pure fun _ invariant => ⟨invariant, inRange, nofun⟩
  | send buf => exact ignoringResult_keepsPorts (entering (self.onConnected_keepsPorts inRange _))
  | recv len => exact ignoringResult_keepsPorts (entering (self.onConnected_keepsPorts inRange _))
  | poll => exact ignoringResult_keepsPorts (entering (self.poll_keepsPorts inRange))
  | setNonblocking nonblocking => exact .pure fun _ holds => ⟨holds.1, inRange, nofun⟩
  | setReuseAddr reuse => exact .pure fun _ holds => ⟨holds.1, inRange, nofun⟩

theorem pushSocket_keepsPorts {socket : TcpSocket} (inRange : socket.InRange) :
    KeepsPorts False (pushSocket socket : NetM smol Unit) := by
  refine .update fun state invariant =>
    ⟨invariant.frames, fun id other found => ?_, invariant.counter, nofun⟩
  rw [List.getElem?_append] at found
  split at found
  · exact invariant.sockets id other found
  · rw [List.getElem?_singleton] at found
    split at found
    · cases found
      exact inRange
    · cases found

theorem perform_spec (input : CallInput) :
    MemTriple (fun state : NetState smol => PortsInvariant False 0 state ∧ input.PortsOk state) (perform input)
      (fun _ => PortsInvariant False 0) (NotIndex False) := by
  refine .fixed fun state holds => .update_bind ?_
  obtain ⟨invariant, arrivals, action⟩ := holds
  have arrived : PortsInvariant False 0 { state with incoming := state.incoming ++ input.arrivals } := by
    refine ⟨fun batch member => ?_, invariant.sockets, invariant.counter, nofun⟩
    rcases List.mem_append.mp member with member | member
    · exact invariant.frames batch member
    · exact arrivals batch member
  cases chosen : input.action with
  | new =>
    refine .bind (TcpSocket.new_spec.startingAt ⟨arrived.frames, arrived.sockets, arrived.counter,
      nofun⟩) fun socket => ?_
    exact .fixed fun now kept => (pushSocket_keepsPorts kept.2).from kept.1
  | call id operation =>
    rw [chosen] at action
    refine .read_bind ?_
    rintro now rfl
    dsimp only
    split
    · rename_i self found
      have inRange := invariant.sockets id self found
      refine .bind ((invoke_spec self inRange operation).weaken ?_ (fun _ _ kept => kept)
        fun _ other => other) fun result => .fixed fun now kept => .update_bind ?_
      · rintro _ rfl
        refine ⟨arrived, ?_⟩
        have asked := action self (by rw [found]; rfl)
        cases operation <;> exact asked
      · have stored : PortsInvariant False 0 { now with socketVec := now.socketVec.set id (some result.2) } :=
          setSlot_portsInvariant kept.1 id fun socket same => Option.some.inj same ▸ kept.2.1
        split
        · rename_i accepted taken
          exact (pushSocket_keepsPorts (kept.2.2 accepted taken)).from stored
        · exact KeepsPorts.from Preserves.pure stored
    · exact KeepsPorts.from Preserves.pure arrived
  | drop id =>
    refine .read_bind ?_
    rintro now rfl
    dsimp only
    split
    · rename_i self found
      refine .update_bind ?_
      exact (self.drop_keepsPorts (invariant.sockets id self found)).from (setSlot_portsInvariant arrived id nofun)
    · exact KeepsPorts.from Preserves.pure arrived

theorem init_portsInvariant (smol : Smoltcp) : PortsInvariant False 0 (NetState.init smol) :=
  ⟨nofun, fun _ _ => nofun, Nat.le_refl _, nofun⟩

/-- In a run whose frames and calls keep to the ports that have a slot, no call
and no frame reaches past the listen table. -/
theorem ports_within_listen_table (smol : Smoltcp) (inputs : List CallInput)
    (met : MeetsAlong perform (fun input world => input.PortsOk world.memory) inputs (NetWorld.init smol)) (port : Nat) :
    stopReason ((runAll perform inputs).run (NetWorld.init smol)) ≠
      some (.panicked (.listenTableIndex port)) := by
  have kept : ∀ (input : CallInput) (_ : Nat),
      Triple (fun world : NetWorld smol =>
          PortsInvariant False 0 world.memory ∧ input.PortsOk world.memory)
        (perform input) (fun _ world => PortsInvariant False 0 world.memory) (fun fault _ => NotIndex False fault) :=
    fun input _ => (perform_spec input).triple
  have finished := runAll_invariant kept inputs 0 (NetWorld.init smol) ⟨init_portsInvariant smol, met⟩
  cases outcome : (runAll perform inputs).run (NetWorld.init smol) with
  | ok value world => exact nofun
  | error fault world =>
      rw [outcome] at finished
      intro same
      exact finished.index port (Option.some.inj same)

/-- A socket bound to the first port without a slot brings the net thread down
when it listens, and so does a frame for that port. -/
theorem listen_table_overrun :
    stopReason ((runAll perform [⟨.new, []⟩, ⟨.call 0 (.bind ⟨.v4 (Vector.replicate 4 0), 0x2000⟩), []⟩,
        ⟨.call 0 .listen, []⟩]).run (NetWorld.init .small)) = some (.panicked (.listenTableIndex 0x2000)) ∧
      stopReason ((runAll perform [⟨.new, []⟩, ⟨.call 0 .listen, []⟩,
        ⟨.call 0 .accept, [⟨[], [synFrame 0x2000]⟩]⟩]).run (NetWorld.init .small)) =
          some (.panicked (.listenTableIndex 0x2000)) := by
  decide +kernel

def acceptedRun : List CallInput :=
  [⟨.new, []⟩, ⟨.call 0 (.bind ⟨.v4 (Vector.replicate 4 0), 6379⟩), []⟩, ⟨.call 0 .listen, []⟩,
    ⟨.call 0 .accept, [⟨[], [synFrame 6379]⟩, ⟨[], [ackFrame 6379]⟩]⟩]

def redisRun : List CallInput := acceptedRun ++ [⟨.call 0 .shutdown, []⟩]

theorem ports_within_listen_table_redisRun :
    stopReason ((runAll perform redisRun).run (NetWorld.init .small)) ≠
      some (.panicked (.listenTableIndex 0x2000)) :=
  ports_within_listen_table .small redisRun (by decide +kernel) 0x2000

end RootTaskDemo.Net
