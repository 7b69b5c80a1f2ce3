import Mathlib.Data.Fintype.Card
import RootTaskDemo.Net.Quiet
import RootTaskDemo.Lib.Runs

namespace RootTaskDemo.Net

open Common Lib Thread

variable {smol : Smoltcp} {state : NetState smol} {world middle after : NetWorld smol}
  {results : List (AxResult UInt16)}

/-! Consecutive calls of `get_ephemeral_port`: which port each of them is to give, and how
many of them the counter allows before it leaves the table. -/

def ahead (curr port : UInt16) : Nat :=
  if curr ≤ port then port.toNat - curr.toNat
    else port.toNat + (portEnd.toNat - portStart.toNat + 1) - curr.toNat

def NetState.Ephemeral (state : NetState smol) (port : UInt16) : Prop :=
  portStart ≤ port ∧ state.listener port.toNat = none

/-- A call gives the first port ahead, or says that there is none; the counter stays in the
range, which goes up to the last port. -/
structure FairDraw (before : NetState smol) (result : AxResult UInt16) (after : NetState smol) :
    Prop where
  found : ∀ port, result = .ok port →
    before.Ephemeral port ∧ ∀ other, before.Ephemeral other → ahead before.curr port ≤ ahead before.curr other
  refused : ∀ error, result = .error error → error = .addrInUse ∧ ∀ port, ¬ before.Ephemeral port
  counter : portStart ≤ after.curr

inductive Drawn : NetWorld smol → List (AxResult UInt16) → NetWorld smol → Prop where
  | nil (world : NetWorld smol) : Drawn world [] world
  | cons {world middle after : NetWorld smol} {result : AxResult UInt16} {results : List
    (AxResult UInt16)}
    (ran : getEphemeralPort.run world = .ok result middle) (fair : FairDraw world.memory result middle.memory)
    (rest : Drawn middle results after) : Drawn world (result :: results) after

def NoEarlyRepeat (state : NetState smol) (results : List (AxResult UInt16)) : Prop :=
  ∀ (first again : Nat) (port : UInt16), first < again → results[first]? = some (.ok port) →
    results[again]? = some (.ok port) →
    ∀ other, state.Ephemeral other → ∃ between : Nat, first ≤ between ∧ between < again ∧
      results[between]? = some (.ok other)

def DrawsFairly (count : Nat) (world : NetWorld smol) : Prop :=
  ∃ results after, results.length = count ∧ Drawn world results after ∧
    NoEarlyRepeat world.memory results

theorem NetState.Draws.fair {port : UInt16} (draws : state.Draws port)
    (counter : portStart ≤ state.curr) :
    FairDraw state (.ok port) { state with curr := nextPort port } := by
  have low : 0x1000 ≤ state.curr.toNat := counter
  have above := draws.above
  have inside : port.toNat < 0x2000 := draws.inside
  have place : ahead state.curr port = port.toNat - state.curr.toNat := by
    rw [ahead, if_pos (UInt16.le_iff_toNat_le.mpr above)]
  refine ⟨fun found same => ?_, nofun, ?_⟩
  · cases same
    refine ⟨⟨UInt16.le_iff_toNat_le.mpr (Nat.le_trans low above), draws.free⟩,
      fun other ⟨otherLow, otherFree⟩ => ?_⟩
    have otherLow : 0x1000 ≤ other.toNat := otherLow
    rw [place, ahead]
    split
    · rename_i later
      have reached : port.toNat ≤ other.toNat := by
        by_contra before
        exact draws.first other.toNat (UInt16.le_iff_toNat_le.mp later) (Nat.not_le.mp before) otherFree
      omega
    · have cycle : portEnd.toNat - portStart.toNat + 1 = 0xf000 := rfl
      omega
  · refine UInt16.le_iff_toNat_le.mpr ?_
    change 0x1000 ≤ (nextPort port).toNat
    rw [toNat_nextPort draws.inside]
    omega

def NetState.freeSlots (state : NetState smol) : Finset (Fin portNum) :=
  Finset.univ.filter fun slot => state.curr.toNat ≤ slot ∧ (state.listenTable slot).isNone

theorem mem_freeSlots {slot : Fin portNum} :
    slot ∈ state.freeSlots ↔ state.curr.toNat ≤ slot ∧ state.listener slot = none := by
  simp only [NetState.freeSlots, Finset.mem_filter, Finset.mem_univ, true_and,
    isNone_listenTable state slot.isLt]

theorem freePort_iff : FreePort state ↔ state.freeSlots.Nonempty := by
  simp only [FreePort, Finset.Nonempty, NetState.freeSlots, Finset.mem_filter, Finset.mem_univ,
    true_and, Option.isNone_iff_eq_none]

theorem NetState.Draws.freeSlots {port : UInt16} (draws : state.Draws port) :
    state.freeSlots.card = ({ state with curr := nextPort port } : NetState smol).freeSlots.card + 1 := by
  have next := toNat_nextPort draws.inside
  have taken : (⟨port.toNat, draws.inside⟩ : Fin portNum) ∉
      ({ state with curr := nextPort port } : NetState smol).freeSlots := by
    intro member
    have above : (nextPort port).toNat ≤ port.toNat := (mem_freeSlots.mp member).1
    omega
  rw [← Finset.card_insert_of_notMem taken]
  refine congrArg Finset.card (Finset.ext fun slot => ?_)
  rw [Finset.mem_insert, mem_freeSlots, mem_freeSlots]
  change _ ↔ _ ∨ (nextPort port).toNat ≤ slot ∧ state.listener slot = none
  have above := draws.above
  constructor
  · rintro ⟨reached, free⟩
    by_cases here : (slot : Nat) = port.toNat
    · exact Or.inl (Fin.ext here)
    · refine Or.inr ⟨?_, free⟩
      by_contra before
      exact draws.first slot reached (by omega) free
  · rintro (rfl | ⟨reached, free⟩)
    · exact ⟨above, draws.free⟩
    · exact ⟨by omega, free⟩

theorem getEphemeralPort_ran {result : AxResult UInt16}
    (ran : getEphemeralPort.run world = .ok result middle) :
    ∃ port, result = .ok port ∧ world.memory.Draws port ∧ middle.memory =
      { world.memory with curr := nextPort port } :=
  (getEphemeralPort_finds world.memory).triple.of_run rfl ran

theorem getEphemeralPort_returns (free : FreePort world.memory) :
    ∃ result middle, getEphemeralPort.run world = .ok result middle := by
  have finds := (getEphemeralPort_finds world.memory).triple world rfl
  cases outcome : getEphemeralPort.run world with
  | ok result middle => exact ⟨result, middle, rfl⟩
  | error fault middle =>
    rw [outcome] at finds
    exact absurd free finds

theorem Drawn.length_le (drawn : Drawn world results after) :
    results.length ≤ world.memory.freeSlots.card := by
  induction drawn with
  | nil world => exact Nat.zero_le _
  | cons ran fair rest ih =>
    obtain ⟨port, -, draws, memory⟩ := getEphemeralPort_ran ran
    rw [memory] at ih
    rw [List.length_cons, draws.freeSlots]
    exact Nat.succ_le_succ ih

theorem drawn_of_freeSlots {count : Nat} (counter : portStart ≤ world.memory.curr)
    (enough : count ≤ world.memory.freeSlots.card) :
    ∃ (ports : List UInt16) (after : NetWorld smol), ports.length = count ∧ Drawn world (ports.map .ok) after ∧
      ports.Pairwise (· < ·) ∧ ∀ port ∈ ports, world.memory.curr ≤ port := by
  induction count generalizing world with
  | zero => exact ⟨[], world, rfl, .nil world, .nil, by simp⟩
  | succ count ih =>
    have free : FreePort world.memory := freePort_iff.mpr (Finset.card_pos.mp (by omega))
    obtain ⟨result, middle, ran⟩ := getEphemeralPort_returns free
    obtain ⟨port, rfl, draws, memory⟩ := getEphemeralPort_ran ran
    have fair : FairDraw world.memory (.ok port) middle.memory := memory ▸ draws.fair counter
    have slots := draws.freeSlots
    rw [← memory] at slots
    obtain ⟨ports, after, length, drawn, sorted, above⟩ := ih fair.counter (by omega)
    have next : middle.memory.curr.toNat = port.toNat + 1 := by
      rw [memory]
      exact toNat_nextPort draws.inside
    have later : ∀ other ∈ ports, port < other := by
      intro other member
      have reached := UInt16.le_iff_toNat_le.mp (above other member)
      exact UInt16.lt_iff_toNat_lt.mpr (by omega)
    have here : world.memory.curr ≤ port := UInt16.le_iff_toNat_le.mpr draws.above
    refine ⟨port :: ports, after, by rw [List.length_cons, length], .cons ran fair drawn,
      List.pairwise_cons.mpr ⟨later, sorted⟩, ?_⟩
    intro other member
    rcases List.mem_cons.mp member with rfl | member
    · exact here
    · exact UInt16.le_trans here (UInt16.le_of_lt (later other member))

/-- From a counter in the range, so many calls are as they are to be if and only if there are so
many slots in the table from the counter on that have no listener. -/
theorem ephemeral_ports_fair_iff (count : Nat) (counter : portStart ≤ world.memory.curr) :
    DrawsFairly count world ↔ count ≤ world.memory.freeSlots.card := by
  constructor
  · rintro ⟨results, after, rfl, drawn, -⟩
    exact drawn.length_le
  · intro enough
    obtain ⟨ports, after, length, drawn, sorted, -⟩ := drawn_of_freeSlots counter enough
    refine ⟨ports.map .ok, after, by rw [List.length_map, length], drawn, ?_⟩
    intro first again port before found found'
    simp only [List.getElem?_map, Option.map_eq_some_iff, Except.ok.injEq, exists_eq_right] at found found'
    obtain ⟨bound, rfl⟩ := List.getElem?_eq_some_iff.mp found
    obtain ⟨bound', same⟩ := List.getElem?_eq_some_iff.mp found'
    -- the ports go up, so none is given twice
    have less := List.pairwise_iff_getElem.mp sorted first again bound bound' before
    rw [same] at less
    exact absurd less (UInt16.lt_irrefl _)

theorem ephemeral_ports_fair_iff_start : portStart ≤ (NetWorld.init .small).memory.curr ∧
    DrawsFairly 2 (NetWorld.init .small) := by
  have slots : ({⟨0x1000, by decide⟩, ⟨0x1001, by decide⟩} : Finset (Fin portNum)) ⊆
      (NetWorld.init .small).memory.freeSlots := by
    intro slot member
    rcases Finset.mem_insert.mp member with rfl | last
    · exact mem_freeSlots.mpr ⟨by decide, rfl⟩
    · rw [Finset.mem_singleton.mp last]
      exact mem_freeSlots.mpr ⟨by decide, rfl⟩
  exact ⟨by decide, (ephemeral_ports_fair_iff 2 (by decide)).mpr (Finset.card_le_card slots)⟩

/-- The net thread with the counter at the end of the table, where it is when all ports in it have
been given. -/
def endWorld : World Lock (List UInt64) (NetState .small) :=
  { NetWorld.init .small with memory := { (NetWorld.init .small).memory with curr := 0x2000 } }

/-- The port 0x2000 is free and in the range, but it has no slot in the table. -/
theorem ephemeral_port_overruns :
    portStart ≤ endWorld.memory.curr ∧ endWorld.memory.Ephemeral 0x2000 ∧
      stopReason (getEphemeralPort.run endWorld) = some (.panicked (.listenTableIndex 0x2000)) ∧
        ¬ DrawsFairly 1 endWorld := by
  have stops : stopReason (getEphemeralPort.run endWorld) =
    some (.panicked (.listenTableIndex 0x2000)) := by decide +kernel
  refine ⟨by decide, ⟨by decide, by decide⟩, stops, ?_⟩
  rintro ⟨results, after, length, drawn, -⟩
  cases drawn with
  | nil => cases length
  | cons ran _ _ =>
      rw [ran] at stops
      cases stops

end RootTaskDemo.Net
