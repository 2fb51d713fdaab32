import NewsCentral.Categories.Program
import NewsCentral.Lists.Pages
import NewsCentral.Models.Decoded

/-
  The images of an Instagram tag:
  `lib/widgets/blog/horizontal/instagram_items.dart`.

  The loop of `fromJson` runs to the larger one of fourteen
  and the number of edges, and the grid has half as many
  columns as there are images, each with two of them.

  Key definitions include:
    * `NewsCentral.ImageInstagram.fromJson`
    * `NewsCentral.InstagramItems.columns`
    * `NewsCentral.ImageInstagram.Shown`
    * `NewsCentral.ImageInstagram.Readable`

  Key theorems include:
    * `NewsCentral.ImageInstagram.fromJson_eq_ok_iff`
    * `NewsCentral.InstagramItems.columns_eq`
    * `NewsCentral.ImageInstagram.exists_shown_iff`
-/

------------------------------------------------------------
-- Reading The Response
------------------------------------------------------------

namespace Dart

namespace Json

/- The characters that take two UTF-16 units count twice. -/
def units (s : String) : Nat :=
  (s.toList.map fun c =>
    if c.toNat < 0x10000 then 1 else 2).sum

/- `j.length` of a dynamic value. -/
def length : Json → Except Thrown Nat
  | .arr items => .ok items.length
  | .obj fields => .ok (fields.map Prod.fst).dedup.length
  | .str s => .ok (units s)
  | _ => .error (.noSuchMethod "length")

end Json

end Dart

namespace NewsCentral

open Dart

structure ImageInstagram where
  images : List (Option String)
  count : Nat
  shortcodes : List (Option String)

namespace ImageInstagram

/- Where the response has its edges. -/
def edgesPath : List String :=
  ["graphql", "hashtag", "edge_hashtag_to_media", "edges"]

/- A text of the node of an edge. -/
def nodeText
    (json : Json)
    (i : Nat)
    (key : String) : Except Thrown (Option String) := do
  let edges ← json.walk edgesPath
  let edge ← edges.itemAt i
  (← edge.walk ["node", key]).asString

/- What one turn of the loop adds to the two lists. -/
def added
    (json : Json)
    (i : Nat) :
    Except Thrown (Option String × Option String) := do
  let image ← nodeText json i "thumbnail_src"
  let shortcode ← nodeText json i "shortcode"
  return (image, shortcode)

def fromJson (json : Json) : Except Thrown ImageInstagram := do
  let edges ← json.walk edgesPath
  let count := max (← edges.length) 14
  let lists ←
    (List.range count).foldlM
      (fun lists i => do
        let texts ← added json i
        return (lists.1 ++ [texts.1], lists.2 ++ [texts.2]))
      ([], [])
  return ⟨lists.1, count, lists.2⟩

end ImageInstagram

end NewsCentral

------------------------------------------------------------
-- The Grid
------------------------------------------------------------

namespace NewsCentral

open Dart

/- The address that `Tools.image` loads, not resized. -/
def Tools.image (url : Option String) : String :=
  match url with
  | none => kDefaultImage
  | some "" => kDefaultImage
  | some url => url

namespace InstagramItems

/-
  A cell of the grid: the image it shows, and the id that a
  tap on it passes to `Instagram`.
-/
structure Cell where
  shows : String
  opens : Except Thrown (Option String)

/- The image is read with the grid, the id at a tap. -/
def cell
    (data : ImageInstagram)
    (i : Nat) : Except Thrown Cell := do
  let url ← elementAt data.images i
  return ⟨Tools.image url, elementAt data.shortcodes i⟩

def column
    (data : ImageInstagram)
    (index : Nat) : Except Thrown (Cell × Cell) := do
  let top ← cell data (index * 2)
  let bottom ← cell data (index * 2 + 1)
  return (top, bottom)

/- The children of the row. -/
def columns
    (data : ImageInstagram) :
    Except Thrown (List (Cell × Cell)) :=
  (List.range (data.count / 2)).mapM (column data)

/- The cells of a row, column by column. -/
def cells (columns : List (Cell × Cell)) : List Cell :=
  columns.flatMap fun column => [column.1, column.2]

/- What the future's snapshot is built to. -/
inductive Body where
  | loading
  | row (columns : List (Cell × Cell))

def builder
    (snapshot : Option ImageInstagram) :
    Except Thrown Body :=
  match snapshot with
  | some data => return .row (← columns data)
  | none => return .loading

end InstagramItems

end NewsCentral

------------------------------------------------------------
-- The Property And Its Condition
------------------------------------------------------------

namespace NewsCentral

open Dart

namespace ImageInstagram

/- A text of an edge, where it has one. -/
def textOf (key : String) (edge : Json) : Option String :=
  (edge.follow ["node", key]).text?

/- The cell that belongs to an image and its shortcode. -/
def cellOf
    (image shortcode : Option String) :
    InstagramItems.Cell :=
  ⟨Tools.image image, .ok shortcode⟩

/-
  Both lists have a text of the same edge at each position,
  and the grid has one cell for each position.
-/
structure Shown
    (edges : List Json)
    (data : ImageInstagram) : Prop where
  images : data.images.length = data.count
  shortcodes : data.shortcodes.length = data.count
  count_le : data.count ≤ edges.length
  sameEdge :
    ∀ i < data.count,
      ∃ edge ∈ edges,
        data.images[i]? =
            some (textOf "thumbnail_src" edge) ∧
          data.shortcodes[i]? =
            some (textOf "shortcode" edge)
  grid :
    ∃ columns,
      InstagramItems.builder (some data) =
          .ok (.row columns) ∧
        (InstagramItems.cells columns).Perm
          (List.zipWith cellOf data.images data.shortcodes)

/- An edge whose node has texts, or nothing, in both places. -/
structure Readable (edge : Json) : Prop where
  map : edge.isMap = true
  node : (edge.member "node").isMap = true
  image :
    (edge.follow ["node", "thumbnail_src"]).isNullableText =
      true
  shortcode :
    (edge.follow ["node", "shortcode"]).isNullableText = true

end ImageInstagram

end NewsCentral

------------------------------------------------------------
-- What Is Read
------------------------------------------------------------

namespace NewsCentral

open Dart

namespace ImageInstagram

variable {json : Json} {edges : List Json}

/- The two texts of an edge. -/
def textsOf (edge : Json) : Option String × Option String :=
  (textOf "thumbnail_src" edge, textOf "shortcode" edge)

/- A text is read if there are maps on the way to it. -/
theorem nodeText_eq_ok_iff
    {i : Nat}
    {key : String}
    {text : Option String}
    (hEdges : json.walk edgesPath = .ok (.arr edges)) :
    nodeText json i key = .ok text ↔
      ∃ edge,
        edges[i]? = some edge ∧
          edge.mapsAlong ["node", key] = true ∧
          (edge.follow ["node", key]).isNullableText = true ∧
          text = textOf key edge := by
  unfold nodeText textOf
  rw [hEdges, ok_bind_eq, bind_eq_ok_iff]
  apply exists_congr
  intro edge
  refine and_congr ?_ ?_
  · simp only [Json.itemAt]
    cases edges[i]? with
    | none => simp
    | some item => simp
  · rw [bind_eq_ok_iff]
    simp only [Json.walk_eq_ok_iff, Json.asString_eq_ok_iff]
    constructor
    · rintro ⟨_, ⟨hMaps, rfl⟩, hText⟩
      exact ⟨hMaps, hText⟩
    · rintro ⟨hMaps, hText⟩
      exact ⟨_, ⟨hMaps, rfl⟩, hText⟩

/- A turn ends well if there is a readable edge for it. -/
theorem added_eq_ok_iff
    {i : Nat}
    {texts : Option String × Option String}
    (hEdges : json.walk edgesPath = .ok (.arr edges)) :
    added json i = .ok texts ↔
      ∃ edge,
        edges[i]? = some edge ∧
          Readable edge ∧
          texts = textsOf edge := by
  unfold added textsOf
  simp only [bind_eq_ok_iff, nodeText_eq_ok_iff hEdges]
  constructor
  · rintro ⟨_, ⟨edge, hAt, hMaps, hImage, rfl⟩, _,
      ⟨_, hAgain, _, hCode, rfl⟩, hTexts⟩
    cases hAt.symm.trans hAgain
    cases hTexts
    simp only [Json.mapsAlong, Bool.and_true,
      Bool.and_eq_true] at hMaps
    exact ⟨edge, hAt, ⟨hMaps.1, hMaps.2, hImage, hCode⟩, rfl⟩
  · rintro ⟨edge, hAt, hReadable, rfl⟩
    have hMaps (key : String) :
        edge.mapsAlong ["node", key] = true := by
      simp [Json.mapsAlong, hReadable.map, hReadable.node]
    exact
      ⟨_, ⟨edge, hAt, hMaps _, hReadable.image, rfl⟩, _,
        ⟨edge, hAt, hMaps _, hReadable.shortcode, rfl⟩, rfl⟩

/- All turns end well exactly if each has its edge. -/
theorem exists_mapM_added_iff
    {count : Nat}
    (hEdges : json.walk edgesPath = .ok (.arr edges)) :
    (∃ pairs, (List.range count).mapM (added json) =
        .ok pairs) ↔
      ∀ i < count,
        ∃ edge, edges[i]? = some edge ∧ Readable edge := by
  simp only [exists_mapM_iff, List.mem_range,
    added_eq_ok_iff hEdges]
  constructor
  · intro hEach i hLt
    rcases hEach i hLt with ⟨_, edge, hAt, hReadable, _⟩
    exact ⟨edge, hAt, hReadable⟩
  · intro hEach i hLt
    rcases hEach i hLt with ⟨edge, hAt, hReadable⟩
    exact ⟨_, edge, hAt, hReadable, rfl⟩

/- One turn for each edge reads all of them, in order. -/
theorem mapM_added
    (hEdges : json.walk edgesPath = .ok (.arr edges))
    (hReadable : ∀ edge ∈ edges, Readable edge) :
    (List.range edges.length).mapM (added json) =
      .ok (edges.map textsOf) := by
  apply mapM_of_forall₂
  rw [List.forall₂_iff_get]
  refine ⟨by simp, ?_⟩
  intro i hLt _
  have hIn : i < edges.length := by simpa using hLt
  refine
    (added_eq_ok_iff hEdges).mpr
      ⟨edges[i], ?_, hReadable _ (List.getElem_mem hIn), ?_⟩
  · simp [List.getElem?_eq_getElem hIn]
  · simp

theorem fromJson_eq
    (hEdges : json.walk edgesPath = .ok (.arr edges)) :
    fromJson json =
      ((List.range (max edges.length 14)).mapM
        (added json)).map fun pairs =>
          ⟨pairs.map Prod.fst, max edges.length 14,
            pairs.map Prod.snd⟩ := by
  unfold fromJson
  rw [hEdges, ok_bind_eq]
  simp only [Json.length]
  rw [ok_bind_eq, foldlM_append_pair]
  cases (List.range (max edges.length 14)).mapM
      (added json) with
  | error e => rfl
  | ok pairs => rfl

/-
  A response is read exactly if it has fourteen edges or
  more and all of them are readable.
-/
theorem fromJson_eq_ok_iff
    {data : ImageInstagram}
    (hEdges : json.walk edgesPath = .ok (.arr edges)) :
    fromJson json = .ok data ↔
      14 ≤ edges.length ∧
        (∀ edge ∈ edges, Readable edge) ∧
        data =
          ⟨edges.map (textOf "thumbnail_src"),
            edges.length,
            edges.map (textOf "shortcode")⟩ := by
  rw [fromJson_eq hEdges]
  constructor
  · intro hData
    cases hLoop :
        (List.range (max edges.length 14)).mapM
          (added json) with
    | error e => simp [hLoop, Except.map] at hData
    | ok pairs =>
        have hEach :=
          (exists_mapM_added_iff hEdges).mp ⟨pairs, hLoop⟩
        have hEnough : 14 ≤ edges.length := by
          -- the turn behind the last edge would throw
          by_contra hFew
          rcases hEach edges.length (by omega) with
            ⟨edge, hAt, _⟩
          simp at hAt
        have hReadable :
            ∀ edge ∈ edges, Readable edge := by
          intro edge hMem
          rcases List.getElem?_of_mem hMem with ⟨i, hAt⟩
          have hLt := (List.getElem?_eq_some_iff.mp hAt).1
          rcases hEach i (by omega) with
            ⟨_, hAgain, hReadable⟩
          cases hAt.symm.trans hAgain
          exact hReadable
        rw [max_eq_left hEnough, mapM_added hEdges hReadable]
          at hData
        cases hData
        refine ⟨hEnough, hReadable, ?_⟩
        simp [textsOf, Function.comp_def]
  · rintro ⟨hEnough, hReadable, rfl⟩
    rw [max_eq_left hEnough, mapM_added hEdges hReadable]
    simp [Except.map, textsOf, Function.comp_def]

end ImageInstagram

end NewsCentral

------------------------------------------------------------
-- What The Grid Shows
------------------------------------------------------------

namespace NewsCentral

open Dart

namespace InstagramItems

variable {data : ImageInstagram}

/- The cells of all images, in order. -/
def ofData (data : ImageInstagram) : List Cell :=
  List.zipWith ImageInstagram.cellOf
    data.images data.shortcodes

/- Each cell has the image and the shortcode of its place. -/
theorem cell_eq
    {i : Nat}
    (hLt : i < (ofData data).length) :
    cell data i = .ok (ofData data)[i] := by
  have hBoth :
      i < data.images.length ∧ i < data.shortcodes.length := by
    simpa [ofData] using hLt
  have hImage :
      elementAt data.images i = .ok data.images[i] :=
    elementAt_eq_ok_iff.mpr
      (List.getElem?_eq_getElem hBoth.1)
  have hCode :
      elementAt data.shortcodes i = .ok data.shortcodes[i] :=
    elementAt_eq_ok_iff.mpr
      (List.getElem?_eq_getElem hBoth.2)
  unfold cell
  rw [hImage, hCode, ok_bind_eq]
  simp only [ofData, List.getElem_zipWith]
  rfl

/-
  The grid is built with the cells of the images, except for
  the last one when their number is odd.
-/
theorem columns_eq
    (hLength : (ofData data).length = data.count) :
    ∃ row,
      columns data = .ok row ∧
        cells row =
          (ofData data).take (data.count / 2 * 2) := by
  let f (i : Nat) : Cell :=
    (ofData data)[i]?.getD ⟨"", .ok none⟩
  have hCell :
      ∀ i < data.count, cell data i = .ok (f i) := by
    intro i hLt
    rw [← hLength] at hLt
    rw [cell_eq hLt]
    simp only [f, List.getElem?_eq_getElem hLt,
      Option.getD_some]
  refine
    ⟨(List.range (data.count / 2)).map fun i =>
      (f (i * 2), f (i * 2 + 1)), ?_, ?_⟩
  · apply mapM_of_forall₂
    rw [List.forall₂_map_right_iff, List.forall₂_same]
    intro i hMem
    have hLt := List.mem_range.mp hMem
    unfold column
    rw [hCell _ (by omega), hCell _ (by omega)]
    rfl
  · have hPositions :=
      Pages.flatMap_range_positions 2 (data.count / 2) f
    simp only [cells, List.flatMap_map]
    refine hPositions.trans (List.ext_getElem ?_ ?_)
    · rw [List.length_map, List.length_range,
        List.length_take, hLength]
      omega
    · intro i hLeft hRight
      have hLt : i < (ofData data).length := by
        rw [List.length_take] at hRight
        omega
      simp only [List.getElem_map, List.getElem_range,
        List.getElem_take, f, List.getElem?_eq_getElem hLt,
        Option.getD_some]

/- The grid shows each image exactly if they come in pairs. -/
theorem exists_perm_iff
    (hLength : (ofData data).length = data.count) :
    (∃ row,
        builder (some data) = .ok (.row row) ∧
          (cells row).Perm (ofData data)) ↔
      data.count % 2 = 0 := by
  rcases columns_eq hLength with ⟨row, hRow, hCells⟩
  have hBuilt : builder (some data) = .ok (.row row) := by
    simp only [builder]
    rw [hRow]
    rfl
  constructor
  · rintro ⟨other, hOther, hPerm⟩
    cases hBuilt.symm.trans hOther
    have hCount := hPerm.length_eq
    rw [hCells, List.length_take, hLength] at hCount
    omega
  · intro hEven
    refine ⟨row, hBuilt, ?_⟩
    rw [hCells, List.take_of_length_le (by omega)]

end InstagramItems

end NewsCentral

------------------------------------------------------------
-- Each Image Once
------------------------------------------------------------

namespace NewsCentral

open Dart

namespace ImageInstagram

variable {json : Json} {edges : List Json}

/-
  The images are read and each is shown once exactly if
  there are fourteen edges or more, an even number of them,
  and all of them are readable.
-/
theorem exists_shown_iff
    (hEdges : json.walk edgesPath = .ok (.arr edges)) :
    (∃ data, fromJson json = .ok data ∧ Shown edges data) ↔
      14 ≤ edges.length ∧
        edges.length % 2 = 0 ∧
        ∀ edge ∈ edges, Readable edge := by
  simp only [fromJson_eq_ok_iff hEdges]
  constructor
  · rintro ⟨data, ⟨hEnough, hReadable, rfl⟩, hShown⟩
    have hEven :=
      (InstagramItems.exists_perm_iff
        (by simp [InstagramItems.ofData])).mp hShown.grid
    exact ⟨hEnough, hEven, hReadable⟩
  · rintro ⟨hEnough, hEven, hReadable⟩
    refine ⟨_, ⟨hEnough, hReadable, rfl⟩, ?_⟩
    refine ⟨?_, ?_, ?_, ?_, ?_⟩
    · exact List.length_map _
    · exact List.length_map _
    · exact le_refl edges.length
    · intro i hLt
      refine ⟨edges[i], List.getElem_mem hLt, ?_, ?_⟩
      · simp [List.getElem?_eq_getElem hLt]
      · simp [List.getElem?_eq_getElem hLt]
    · exact
        (InstagramItems.exists_perm_iff
          (by simp [InstagramItems.ofData])).mpr hEven

/- A response with the given edges. -/
def response (edges : List Json) : Json :=
  .obj [("graphql", .obj [("hashtag", .obj
    [("edge_hashtag_to_media", .obj
      [("edges", .arr edges)])])])]

/- An edge with an image. -/
def sample : Json :=
  .obj [("node", .obj
    [ ("shortcode", .str "B8_x1"),
      ("thumbnail_src", .str "https://s.co/1.jpg") ])]

/- Fourteen images are shown in seven columns. -/
theorem exists_shown_fourteen :
    (response (List.replicate 14 sample)).walk edgesPath =
        .ok (.arr (List.replicate 14 sample)) ∧
      ∃ data,
        fromJson (response (List.replicate 14 sample)) =
            .ok data ∧
          Shown (List.replicate 14 sample) data := by
  refine ⟨rfl, (exists_shown_iff rfl).mpr ⟨?_, ?_, ?_⟩⟩
  · decide
  · decide
  · intro edge hMem
    rw [List.eq_of_mem_replicate hMem]
    exact ⟨rfl, rfl, rfl, rfl⟩

/-
  With one image the loop reads behind the list, and of
  fifteen images the grid shows fourteen.
-/
theorem shown_fails :
    fromJson (response [sample]) =
        .error (.error "RangeError" "1") ∧
      ∃ data,
        fromJson (response (List.replicate 15 sample)) =
            .ok data ∧
          ¬ Shown (List.replicate 15 sample) data := by
  refine ⟨rfl, _, rfl, ?_⟩
  rintro ⟨_, _, _, _, row, hRow, hPerm⟩
  cases hRow
  exact absurd hPerm.length_eq (by decide)

end ImageInstagram

end NewsCentral
