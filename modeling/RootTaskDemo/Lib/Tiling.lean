import Mathlib.Logic.Function.Basic

namespace RootTaskDemo.Lib

/-! A range of bytes, cut wherever a page ends, and the front of the pieces whose
pages are known. -/

/-- Bytes of a range that lie in one page, counted from the start of the range. -/
structure Piece where
  offset : Nat
  length : Nat
deriving DecidableEq, Repr

/-- The pieces follow each other from `start` to `stop`, without gap or overlap. -/
def Tiles : Nat → List Piece → Nat → Prop
  | start, [], stop => start = stop
  | start, piece :: rest, stop =>
    piece.offset = start ∧ 0 < piece.length ∧ Tiles (start + piece.length) rest stop

theorem Tiles.le {start stop : Nat} {pieces : List Piece} (tiles : Tiles start pieces stop) :
    start ≤ stop := by
  induction pieces generalizing start with
  | nil => exact Nat.le_of_eq tiles
  | cons piece rest ih => exact Nat.le_trans (Nat.le_add_right ..) (ih tiles.2.2)

theorem Tiles.within {start stop : Nat} {pieces : List Piece} (tiles : Tiles start pieces stop)
    {piece : Piece} (member : piece ∈ pieces) :
    start ≤ piece.offset ∧ 0 < piece.length ∧ piece.offset + piece.length ≤ stop := by
  induction pieces generalizing start with
  | nil => exact absurd member List.not_mem_nil
  | cons first rest ih =>
    obtain ⟨offset, positive, later⟩ := tiles
    cases member with
    | head => exact ⟨Nat.le_of_eq offset.symm, positive, offset ▸ later.le⟩
    | tail _ member =>
      have inside := ih later member
      exact ⟨by omega, inside.2⟩

theorem Tiles.covers {start stop : Nat} {pieces : List Piece} (tiles : Tiles start pieces stop)
    {index : Nat} (lower : start ≤ index) (upper : index < stop) :
    ∃ piece ∈ pieces, piece.offset ≤ index ∧ index < piece.offset + piece.length := by
  induction pieces generalizing start with
  | nil =>
    have : start = stop := tiles
    omega
  | cons first rest ih =>
    obtain ⟨offset, -, later⟩ := tiles
    by_cases here : index < start + first.length
    · exact ⟨first, List.mem_cons_self, by omega, by omega⟩
    · obtain ⟨piece, member, inside⟩ := ih later (by omega)
      exact ⟨piece, List.mem_cons_of_mem _ member, inside⟩

variable (page addr : Nat)

/-- The pieces of the bytes from `offset` on; each has at least one byte, so that as
many rounds as there are bytes are enough. -/
def piecesFrom : Nat → Nat → Nat → List Piece
  | 0, _, _ => []
  | fuel + 1, offset, left =>
    if left = 0 then []
    else
      let length := min (page - (addr + offset) % page) left
      ⟨offset, length⟩ :: piecesFrom fuel (offset + length) (left - length)

def pieces (len : Nat) : List Piece := piecesFrom page addr len 0 len

variable {page addr} {fuel offset left : Nat}

theorem piecesFrom_tiles (positive : 0 < page) (enough : left ≤ fuel) :
    Tiles offset (piecesFrom page addr fuel offset left) (offset + left) := by
  induction fuel generalizing offset left with
  | zero =>
    have : offset = offset + left := by omega
    exact this
  | succ fuel ih =>
    unfold piecesFrom
    split
    · rename_i none
      have : offset = offset + left := by omega
      exact this
    · have room := Nat.mod_lt (addr + offset) positive
      dsimp only
      generalize lengthEq : min (page - (addr + offset) % page) left = length
      have later : Tiles (offset + length) (piecesFrom page addr fuel (offset + length) (left - length))
          (offset + length + (left - length)) := ih (by omega)
      rw [show offset + length + (left - length) = offset + left by omega] at later
      exact ⟨rfl, by show 0 < length; omega, later⟩

theorem piecesFrom_inPage {piece : Piece} (member : piece ∈ piecesFrom page addr fuel offset left)
    (positive : 0 < page) :
    (addr + piece.offset) % page + piece.length ≤ page := by
  induction fuel generalizing offset left with
  | zero => exact absurd member List.not_mem_nil
  | succ fuel ih =>
    unfold piecesFrom at member
    split at member
    · exact absurd member List.not_mem_nil
    · cases member with
      | head =>
        have room := Nat.mod_lt (addr + offset) positive
        show (addr + offset) % page + min (page - (addr + offset) % page) left ≤ page
        omega
      | tail _ member => exact ih member

theorem pieces_tiles (positive : 0 < page) (len : Nat) : Tiles 0 (pieces page addr len) len := by
  have tiles : Tiles 0 (piecesFrom page addr len 0 len) (0 + len) :=
    piecesFrom_tiles positive (Nat.le_refl len)
  rwa [Nat.zero_add] at tiles

theorem pieces_inPage {len : Nat} {piece : Piece} (member : piece ∈ pieces page addr len)
    (positive : 0 < page) :
    (addr + piece.offset) % page + piece.length ≤ page :=
  piecesFrom_inPage member positive

variable {γ : Type} (lookup : Nat → Option γ)

def recorded : List Piece → List (Piece × γ)
  | [] => []
  | piece :: rest =>
    match lookup piece.offset with
    | none => []
    | some entry => (piece, entry) :: recorded rest

def covered (pieces : List Piece) : Bool := pieces.all fun piece => (lookup piece.offset).isSome

variable {lookup} {pieces : List Piece} {start stop : Nat}

theorem recorded_known {access : Piece × γ} (member : access ∈ recorded lookup pieces) :
    access.1 ∈ pieces ∧ lookup access.1.offset = some access.2 := by
  induction pieces with
  | nil => exact absurd member List.not_mem_nil
  | cons piece rest ih =>
    unfold recorded at member
    split at member
    · exact absurd member List.not_mem_nil
    · rename_i entry found
      cases member with
      | head => exact ⟨List.mem_cons_self, found⟩
      | tail _ member => exact ⟨List.mem_cons_of_mem _ (ih member).1, (ih member).2⟩

theorem recorded_tiles (tiles : Tiles start pieces stop) :
    ∃ reached, Tiles start ((recorded lookup pieces).map Prod.fst) reached ∧ reached ≤ stop ∧
      (covered lookup pieces = true ↔ reached = stop) ∧ (reached < stop → lookup reached = none) := by
  induction pieces generalizing start with
  | nil =>
    have same : start = stop := tiles
    exact ⟨start, rfl, Nat.le_of_eq same, by simp [covered, same], fun below => by omega⟩
  | cons piece rest ih =>
    have whole := tiles
    obtain ⟨offset, positive, later⟩ := tiles
    unfold recorded
    split
    · rename_i unknown
      refine ⟨start, rfl, whole.le, ?_, fun _ => offset ▸ unknown⟩
      have short := later.le
      simp only [covered, List.all_cons, unknown, Option.isSome_none, Bool.false_and, Bool.false_eq_true, false_iff]
      omega
    · rename_i entry found
      obtain ⟨reached, front, bound, all, gap⟩ := ih later
      refine ⟨reached, ⟨offset, positive, front⟩, bound, ?_, gap⟩
      rw [← all]
      simp [covered, found]

end RootTaskDemo.Lib
