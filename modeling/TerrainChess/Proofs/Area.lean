import TerrainChess.Config.Game
import TerrainChess.Grid

/-!
# The area of a board

The area of a board and the places of its squares are computed in coordinates. Where
the product of width and height is a coordinate, no product or sum leaves the range,
and the squares have the places of their row-by-row order:
`GameConfig.area_and_places`. A configuration is accepted without this condition, and
`GameConfig.area_out_of_range` is one that has no area. A size without an area stops
the setup once the piece types have been read: `Setup.ofSources_eq_oversized_iff`.
-/

set_option autoImplicit false

namespace TerrainChess

namespace Coord

def mul? (left right : Coord) : Option Coord := ofInt? (left.val * right.val)

def add? (left right : Coord) : Option Coord := ofInt? (left.val + right.val)

theorem ofInt?_eq_none_iff {value : Int} :
    ofInt? value = none ↔ value < -2147483648 ∨ 2147483647 < value := by
  unfold ofInt?
  split
  · next inside =>
    constructor
    · intro none
      cases none
    · omega
  · next outside =>
    constructor
    · omega
    · intro _
      rfl

end Coord

namespace Dims

/-- The place of a square by a product and a sum that may not leave the range of coordinates; a
square off the board has none. -/
def place? (dims : Dims) (square : Square) : Option Nat :=
  if dims.Contains square then
    ((square.y.mul? dims.width).bind (fun before => before.add? square.x)).map
      (fun place => place.val.toNat)
  else none

variable {dims : Dims} {square : Square}

theorem natCast_count (wide : 0 < dims.width.val) (high : 0 < dims.height.val) :
    (dims.count : Int) = dims.width.val * dims.height.val := by
  have columns : (dims.columns : Int) = dims.width.val := Int.toNat_of_nonneg (by omega)
  have rows : (dims.rows : Int) = dims.height.val := Int.toNat_of_nonneg (by omega)
  rw [count, Int.natCast_mul, columns, rows]

/-- The area is the number of squares, if that is a coordinate. -/
theorem area?_eq (wide : 0 < dims.width.val) (high : 0 < dims.height.val) :
    dims.area? = if dims.count ≤ 2147483647 then some dims.count else none := by
  have product := natCast_count wide high
  unfold area?
  rw [← product]
  split
  · next fits =>
    have coordinate : (Coord.clamp dims.count).val = (dims.count : Int) :=
      Coord.val_clamp_of_mem (by omega) (by omega)
    rw [Coord.ofInt?_eq_some_iff.mpr coordinate, Option.map_some, coordinate]
    congr 1
    omega
  · next large => rw [Coord.ofInt?_eq_none_iff.mpr (by omega), Option.map_none]

/-- The place of a square is the number of squares before it, and computing it leaves the range
nowhere if the number of all squares is a coordinate. -/
theorem place?_of_contains (fits : dims.count ≤ 2147483647) (inside : dims.Contains square) :
    dims.place? square = some (dims.index square) := by
  have below := index_lt inside
  obtain ⟨left, right, bottom, top⟩ := id inside
  have columns : (dims.columns : Int) = dims.width.val := Int.toNat_of_nonneg (by omega)
  have place : (dims.index square : Int) = square.y.val * dims.width.val + square.x.val := by
    rw [index, Int.natCast_add, Int.natCast_mul, columns, Int.toNat_of_nonneg bottom,
      Int.toNat_of_nonneg left]
  have start : 0 ≤ square.y.val * dims.width.val := Int.mul_nonneg bottom (by omega)
  have before : (Coord.clamp (square.y.val * dims.width.val)).val =
      square.y.val * dims.width.val := Coord.val_clamp_of_mem (by omega) (by omega)
  have here : (Coord.clamp (dims.index square)).val = (dims.index square : Int) :=
    Coord.val_clamp_of_mem (by omega) (by omega)
  have product : square.y.mul? dims.width = some (Coord.clamp (square.y.val * dims.width.val)) :=
    Coord.ofInt?_eq_some_iff.mpr before
  have sum : (Coord.clamp (square.y.val * dims.width.val)).add? square.x =
      some (Coord.clamp (dims.index square)) := by
    rw [Coord.add?, before, ← place]
    exact Coord.ofInt?_eq_some_iff.mpr here
  rw [place?, if_pos inside, product, Option.bind_some, sum, Option.map_some, here,
    Int.toNat_natCast]

theorem place?_eq_some_iff (fits : dims.count ≤ 2147483647) {place : Nat} :
    dims.place? square = some place ↔ dims.Contains square ∧ dims.index square = place := by
  by_cases inside : dims.Contains square
  · rw [place?_of_contains fits inside, Option.some.injEq, and_iff_right inside]
  · rw [place?, if_neg inside]
    constructor
    · intro none
      cases none
    · intro given
      exact absurd given.1 inside

theorem index_lt_index_iff {first second : Square} (firstInside : dims.Contains first)
    (secondInside : dims.Contains second) :
    dims.index first < dims.index second ↔ first.precedes second = true := by
  have later : ∀ {lower upper : Square}, dims.Contains lower → dims.Contains upper →
      lower.y.val < upper.y.val → dims.index lower < dims.index upper := by
    intro lower upper lowerInside upperInside above
    obtain ⟨left, right, bottom, _⟩ := lowerInside
    have column : lower.x.val.toNat < dims.columns := by unfold columns; omega
    have row : lower.y.val.toNat + 1 ≤ upper.y.val.toNat := by omega
    have block := Nat.mul_le_mul_right dims.columns row
    rw [Nat.add_mul, Nat.one_mul] at block
    unfold index
    omega
  rw [Square.precedes_iff]
  rcases Int.lt_trichotomy first.y.val second.y.val with below | same | above
  · have ascending := later firstInside secondInside below
    omega
  · obtain ⟨left, _, _, _⟩ := firstInside
    obtain ⟨leftToo, _, _, _⟩ := secondInside
    unfold index
    rw [same]
    omega
  · have descending := later secondInside firstInside above
    omega

theorem getElem?_squares {place : Nat} (bound : place < dims.count) :
    dims.squares[place]? = some (dims.squareAt place) := by
  rw [squares, List.getElem?_map, List.getElem?_range bound, Option.map_some]

end Dims

namespace Grid

variable {dims : Dims} {α : Type}

/-- A look-up and a change on the board are those of one cell. -/
theorem get?_set_cells (grid : Grid dims α) {square : Square} (inside : dims.Contains square) :
    ∃ bound : dims.index square < grid.cells.size,
      grid.get? square = some grid.cells[dims.index square] ∧
      ∀ value, (grid.set square value).cells = grid.cells.set (dims.index square) value bound := by
  have bound : dims.index square < grid.cells.size := grid.size_eq ▸ Dims.index_lt inside
  refine ⟨bound, ?_, ?_⟩
  · rw [get?, if_pos inside, Array.getElem?_eq_getElem bound]
  · intro value
    rw [set, if_pos inside]
    exact Array.setIfInBounds_def .. |>.trans (dif_pos bound)

end Grid

namespace Setup

/-- What a setup comes to: a wrong number of royal piece types, a size without an area, or the board
that the text describes. -/
theorem ofSources_cases (dims : Dims) (resolve : TextureResolver) (sources : Sources) :
    let terrains := (Notation.readTerrains resolve sources.terrain).1
    let read := (Notation.readPieces dims resolve terrains sources.pieces).1
    (∃ count, read = .error count ∧
      ofSources dims resolve sources = .error (.royalCount count)) ∨
    (∃ pieces, read = .ok pieces ∧ dims.area? = none ∧
      ofSources dims resolve sources = .error (.oversized dims)) ∨
    ∃ pieces area setup, read = .ok pieces ∧ dims.area? = some area ∧
      ofSources dims resolve sources = .ok setup ∧ setup.pieces = pieces ∧
      setup.board = (Notation.readBoard dims terrains pieces sources.board).1 := by
  intro terrains read
  unfold ofSources
  dsimp only
  split
  · next count faults failed => exact Or.inl ⟨count, congrArg Prod.fst failed, rfl⟩
  · next pieces faults done =>
    have accepted : read = .ok pieces := congrArg Prod.fst done
    rw [Board.empty?]
    cases size : dims.area? with
    | none => exact Or.inr (Or.inl ⟨pieces, accepted, rfl, rfl⟩)
    | some area => exact Or.inr (Or.inr ⟨pieces, area, _, accepted, rfl, rfl, rfl, rfl⟩)

/-- A setup stops for the size of the board exactly if the piece types are read and the size has no
area. -/
theorem ofSources_eq_oversized_iff {dims size : Dims} {resolve : TextureResolver}
    {sources : Sources} : ofSources dims resolve sources = .error (.oversized size) ↔
      size = dims ∧ dims.area? = none ∧ ∃ pieces, (Notation.readPieces dims resolve
        (Notation.readTerrains resolve sources.terrain).1 sources.pieces).1 = .ok pieces := by
  rcases ofSources_cases dims resolve sources with
    ⟨count, failed, stopped⟩ | ⟨pieces, read, large, stopped⟩ |
      ⟨pieces, area, setup, read, size, made, _⟩
  · simp [stopped, failed]
  · simp [stopped, read, large, eq_comm]
  · simp [made, size]

end Setup

namespace GameConfig

theorem positive_of_ofDeclared {directory : String} {declared : Config.Declared}
    {config : GameConfig} (accepted : ofDeclared directory declared = .ok config) :
    0 < config.dims.width.val ∧ 0 < config.dims.height.val := by
  unfold ofDeclared at accepted
  dsimp only at accepted
  split at accepted
  · cases accepted
  · next positive =>
    split at accepted
    · cases accepted
    · cases accepted
      dsimp only
      omega

/-- A configuration is accepted for a board with more squares than the greatest coordinate. It has
no area, although the place of its last square is a coordinate. -/
theorem area_out_of_range :
    let declared : Config.Declared := ⟨⟨65536, 32768⟩, ⟨"t", "p", "b"⟩, "textures", "RED", false⟩
    (∃ config, ofDeclared "" declared = .ok config ∧ config.dims = declared.dims) ∧
      declared.dims.area? = none ∧
      (∀ area : Coord, area.val ≠ declared.dims.width.val * declared.dims.height.val) ∧
      declared.dims.place? ⟨65535, 32767⟩ = some 2147483647 := by
  intro declared
  refine ⟨⟨_, rfl, rfl⟩, by decide +kernel, ?_, by decide +kernel⟩
  intro area same
  have product : declared.dims.width.val * declared.dims.height.val = 2147483648 := by
    decide +kernel
  have greatest := area.greatest
  omega

/-- The board of an accepted configuration has an area exactly if the product of width and height
is a coordinate, and then this product is its area. No sum or product leaves the range where the
place of one of its squares is computed, the squares have exactly the places below the area, row by
row as they are listed, and a grid has one cell for each of them. -/
theorem area_and_places (directory : String) (declared : Config.Declared) (config : GameConfig)
    (accepted : ofDeclared directory declared = .ok config) :
    let dims := config.dims
    let product := dims.width.val * dims.height.val
    dims.area? = (if product ≤ 2147483647 then some product.toNat else none) ∧
    ∀ area, dims.area? = some area →
      dims.squares.length = area ∧
      (∀ square, dims.Contains square ↔ ∃ place, dims.place? square = some place) ∧
      (∀ square place, dims.place? square = some place →
        place < area ∧ dims.squares[place]? = some square) ∧
      (∀ place, place < area → ∃ square, dims.place? square = some place) ∧
      (∀ first second place other, dims.place? first = some place →
        dims.place? second = some other → (place < other ↔ first.precedes second = true)) ∧
      (∀ name : String, (Grid.constant dims name).cells.size = area) ∧
      ∀ (grid : Grid dims String) square place, dims.place? square = some place →
        ∃ bound : place < grid.cells.size, grid.get? square = some grid.cells[place] ∧
          ∀ name, (grid.set square name).cells = grid.cells.set place name bound := by
  intro dims product
  obtain ⟨wide, high⟩ := positive_of_ofDeclared accepted
  have squares : (dims.count : Int) = product := Dims.natCast_count wide high
  have area := Dims.area?_eq wide high
  refine ⟨?_, ?_⟩
  · rw [area, ← squares, Int.toNat_natCast]
    by_cases fits : dims.count ≤ 2147483647
    · rw [if_pos fits, if_pos (by omega)]
    · rw [if_neg fits, if_neg (by omega)]
  · intro size found
    rw [area] at found
    split at found
    · next fits =>
      cases found
      refine ⟨Dims.length_squares dims, ?_, ?_, ?_, ?_, fun name => Array.size_replicate, ?_⟩
      · intro square
        constructor
        · intro inside
          exact ⟨_, Dims.place?_of_contains fits inside⟩
        · rintro ⟨place, here⟩
          exact ((Dims.place?_eq_some_iff fits).mp here).1
      · intro square place here
        obtain ⟨inside, rfl⟩ := (Dims.place?_eq_some_iff fits).mp here
        refine ⟨Dims.index_lt inside, ?_⟩
        rw [Dims.getElem?_squares (Dims.index_lt inside), Dims.squareAt_index inside]
      · intro place bound
        exact ⟨dims.squareAt place, (Dims.place?_eq_some_iff fits).mpr
          ⟨Dims.contains_squareAt bound, Dims.index_squareAt bound⟩⟩
      · intro first second place other here there
        obtain ⟨inside, rfl⟩ := (Dims.place?_eq_some_iff fits).mp here
        obtain ⟨insideToo, rfl⟩ := (Dims.place?_eq_some_iff fits).mp there
        exact Dims.index_lt_index_iff inside insideToo
      · intro grid square place here
        obtain ⟨inside, rfl⟩ := (Dims.place?_eq_some_iff fits).mp here
        exact grid.get?_set_cells inside
    · cases found

/-- The longest board of one row has the greatest area. -/
theorem area_and_places_longest :
    let dims : Dims := ⟨2147483647, 1⟩
    let declared : Config.Declared := ⟨dims, ⟨"t", "p", "b"⟩, "textures", "BLACK", true⟩
    ∃ config, ofDeclared "match" declared = .ok config ∧ config.dims = dims ∧
      dims.area? = some 2147483647 ∧ dims.squares.length = 2147483647 ∧
      dims.squares[2147483646]? = some ⟨2147483646, 0⟩ := by
  intro dims declared
  obtain ⟨config, accepted, same⟩ :
      ∃ config, ofDeclared "match" declared = .ok config ∧ config.dims = dims := ⟨_, rfl, rfl⟩
  obtain ⟨area, places⟩ := area_and_places "match" declared config accepted
  rw [same] at area places
  have greatest : dims.area? = some 2147483647 := area.trans (by decide +kernel)
  obtain ⟨count, _, follows, _⟩ := places 2147483647 greatest
  have last := follows ⟨2147483646, 0⟩ 2147483646 (by decide +kernel)
  exact ⟨config, accepted, same, greatest, count, last.2⟩

end GameConfig

end TerrainChess
