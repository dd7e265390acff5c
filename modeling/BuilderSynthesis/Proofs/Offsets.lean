import BuilderSynthesis.Schema.Location

/-!
Contract: places in a source text are as good as its offsets.

A later character boundary has a later place, by line and then by column, so no two boundaries
share one. `offsetBelow?` goes the other way: it passes line feeds, then characters of the line
that it is on, and counts the bytes. From the place of a boundary it comes back to the boundary.

Owns: `Location.Before`, `Location.offsetIn?` and `locations_faithful`.
-/

namespace BuilderSynthesis.Schema

/-! ### Character boundaries -/

theorem byteLength_append (before after : List Char) :
    byteLength (before ++ after) = byteLength before + byteLength after := by
  induction before with
  | nil => simp [byteLength]
  | cons character before inductionHypothesis =>
      simp only [List.cons_append, byteLength, inductionHypothesis]
      omega

theorem byteLength_toList (text : String) : byteLength text.toList = text.utf8ByteSize := by
  rw [← String.ofList_toList (s := text)]
  generalize text.toList = characters
  induction characters with
  | nil => rfl
  | cons character rest inductionHypothesis =>
      rw [String.ofList_cons, String.utf8ByteSize_append, String.utf8ByteSize_singleton,
        ← inductionHypothesis]
      simp [byteLength]

/-- A character boundary is the length of what is before it. -/
theorem exists_before_of_isValid {source : String} {offset : Nat}
    (boundary : (String.Pos.Raw.mk offset).IsValid source) :
    ∃ before after, source.toList = before ++ after ∧ byteLength before = offset := by
  obtain ⟨before, after, rfl, same⟩ := String.Pos.Raw.isValid_iff_exists_append.1 boundary
  refine ⟨before.toList, after.toList, String.toList_append, ?_⟩
  rw [byteLength_toList]
  exact (congrArg String.Pos.Raw.byteIdx same).symm

/-! ### Places in order -/

namespace Position

theorem ofOffset_byteLength {source : String} {before after : List Char}
    (cut : source.toList = before ++ after) :
    ofOffset source (byteLength before) = before.foldl advance .start := by
  rw [ofOffset, cut, takeBytes_append]

/-- One place is before another, by line and then by column. -/
def Before (place other : Position) : Prop :=
  place.line < other.line ∨ place.line = other.line ∧ place.column < other.column

theorem Before.trans {one two three : Position} (first : one.Before two)
    (second : two.Before three) : one.Before three := by
  unfold Before at *
  omega

theorem before_advance (place : Position) (character : Char) :
    place.Before (place.advance character) := by
  unfold Before advance
  split
  · exact .inl (Nat.lt_succ_self _)
  · exact .inr ⟨rfl, Nat.lt_succ_self _⟩

/-- Every character moves the place on. -/
theorem before_foldl_advance (place : Position) (character : Char) (text : List Char) :
    place.Before ((character :: text).foldl advance place) := by
  induction text generalizing place character with
  | nil => exact before_advance place character
  | cons next rest inductionHypothesis =>
      exact (before_advance place character).trans
        (inductionHypothesis (place.advance character) next)

/-- A later boundary is at a later place. -/
theorem before_ofOffset {source : String} {one other : Nat}
    (first : (String.Pos.Raw.mk one).IsValid source)
    (second : (String.Pos.Raw.mk other).IsValid source) (less : one < other) :
    (ofOffset source one).Before (ofOffset source other) := by
  obtain ⟨before, after, cut, rfl⟩ := exists_before_of_isValid first
  obtain ⟨beforeToo, afterToo, cutToo, rfl⟩ := exists_before_of_isValid second
  rw [ofOffset_byteLength cut, ofOffset_byteLength cutToo]
  rcases List.append_eq_append_iff.1 (cut.symm.trans cutToo) with
    ⟨between, rfl, -⟩ | ⟨between, rfl, -⟩
  · cases between with
    | nil => simp at less
    | cons character rest =>
        rw [List.foldl_append]
        exact before_foldl_advance _ character rest
  · rw [byteLength_append] at less
    omega

end Position

/-! ### Back to the offset -/

/-- The number of bytes up to a place that is so many lines further down, and so many characters
into its line: line feeds are counted first, and then characters none of which is one. -/
def offsetBelow? : Nat → Nat → List Char → Option Nat
  | 0, 0, _ => some 0
  | _, _, [] => none
  | 0, columns + 1, character :: rest =>
      if character = '\n' then
        none
      else
        (offsetBelow? 0 columns rest).map (character.utf8Size + ·)
  | lines + 1, columns, character :: rest =>
      (offsetBelow? (if character = '\n' then lines else lines + 1) columns rest).map
        (character.utf8Size + ·)

/-- Within a line, characters are columns. -/
theorem offsetBelow?_column {column : List Char} (inside : '\n' ∉ column) (rest : List Char) :
    offsetBelow? 0 column.length (column ++ rest) = some (byteLength column) := by
  induction column with
  | nil => simp [offsetBelow?, byteLength]
  | cons character column inductionHypothesis =>
      rw [List.mem_cons, not_or] at inside
      simp only [List.length_cons, List.cons_append, offsetBelow?, if_neg (Ne.symm inside.1),
        inductionHypothesis inside.2, Option.map_some, byteLength]

/-- Line feeds up to the start of a line are passed first. -/
theorem offsetBelow?_lines (before : List Char) (columns : Nat) (rest : List Char) :
    offsetBelow? (before.count '\n' + 1) columns (before ++ '\n' :: rest) =
      (offsetBelow? 0 columns rest).map (byteLength (before ++ ['\n']) + ·) := by
  induction before with
  | nil => simp [offsetBelow?, byteLength]
  | cons character before inductionHypothesis =>
      have more : (offsetBelow? (before.count '\n' + 1) columns (before ++ '\n' :: rest)).map
          (character.utf8Size + ·) =
          (offsetBelow? 0 columns rest).map
            (byteLength (character :: before ++ ['\n']) + ·) := by
        rw [inductionHypothesis, Option.map_map]
        congr 1
        funext bytes
        simp only [Function.comp_apply, List.cons_append, byteLength]
        omega
      rw [← more, List.cons_append]
      by_cases feed : character = '\n'
      · subst feed
        simp [offsetBelow?]
      · simp [offsetBelow?, feed]

namespace Position

theorem line_foldl_advance (place : Position) (text : List Char) :
    (text.foldl advance place).line = place.line + text.count '\n' := by
  induction text generalizing place with
  | nil => simp
  | cons character text inductionHypothesis =>
      rw [List.foldl_cons, inductionHypothesis]
      by_cases feed : character = '\n'
      · simp only [advance, feed, if_true, List.count_cons_self]
        omega
      · simp [advance, feed]

theorem foldl_advance_column (place : Position) {column : List Char} (inside : '\n' ∉ column) :
    column.foldl advance place = ⟨place.line, place.column + column.length⟩ := by
  induction column generalizing place with
  | nil => simp
  | cons character column inductionHypothesis =>
      rw [List.mem_cons, not_or] at inside
      rw [List.foldl_cons, inductionHypothesis _ inside.2, advance, if_neg (Ne.symm inside.1)]
      simp only [List.length_cons, mk.injEq, true_and]
      omega

/-- After a line feed, the line is known by the line feeds before it, and the column by what
follows it. -/
theorem foldl_advance_lines (place : Position) (before : List Char) {column : List Char}
    (inside : '\n' ∉ column) :
    (before ++ '\n' :: column).foldl advance place =
      ⟨place.line + before.count '\n' + 1, column.length + 1⟩ := by
  rw [List.foldl_append, List.foldl_cons, foldl_advance_column _ inside, advance, if_pos rfl,
    line_foldl_advance, Nat.add_comm 1]

end Position

/-- A text has one line, or a last line after a line feed. -/
theorem exists_last_line (text : List Char) :
    '\n' ∉ text ∨ ∃ before column, text = before ++ '\n' :: column ∧ '\n' ∉ column := by
  by_cases feed : '\n' ∈ text
  · obtain ⟨column, before, split, inside⟩ :=
      List.eq_append_cons_of_mem (List.mem_reverse.2 feed)
    refine .inr ⟨before.reverse, column.reverse, ?_, by rwa [List.mem_reverse]⟩
    rw [← List.reverse_reverse text, split]
    simp
  · exact .inl feed

/-- The way down to the place after a text, and along its line, is the way to the end of the
text. -/
theorem offsetBelow?_after (text rest : List Char) :
    offsetBelow? ((text.foldl Position.advance .start).line - 1)
      ((text.foldl Position.advance .start).column - 1) (text ++ rest) =
      some (byteLength text) := by
  rcases exists_last_line text with inside | ⟨before, column, rfl, inside⟩
  · rw [Position.foldl_advance_column _ inside]
    simpa [Position.start] using offsetBelow?_column inside rest
  · rw [Position.foldl_advance_lines _ _ inside]
    have passed := offsetBelow?_lines before column.length (column ++ rest)
    rw [offsetBelow?_column inside, Option.map_some, ← byteLength_append] at passed
    simpa [Position.start, Nat.add_comm 1] using passed

namespace Location

/-- The place in the file. -/
def position (location : Location) : Position :=
  ⟨location.line, location.column⟩

/-- One location of a file is before another, by line and then by column. -/
def Before (location other : Location) : Prop :=
  location.position.Before other.position

/-- The offset that a location leads to in a text, if it leads to any. -/
def offsetIn? (location : Location) (source : String) : Option Nat :=
  offsetBelow? (location.line - 1) (location.column - 1) source.toList

theorem offsetIn?_ofOffset (file : String) {source : String} {offset : Nat}
    (boundary : (String.Pos.Raw.mk offset).IsValid source) :
    (ofOffset file source offset).offsetIn? source = some offset := by
  obtain ⟨before, after, cut, rfl⟩ := exists_before_of_isValid boundary
  unfold offsetIn? ofOffset
  rw [Position.ofOffset_byteLength cut, cut]
  exact offsetBelow?_after before after

/-- A later character boundary has a later location, no two share one, and a location leads back
to the boundary that it is of. -/
theorem locations_faithful (file source : String) :
    (∀ one other, (String.Pos.Raw.mk one).IsValid source →
      (String.Pos.Raw.mk other).IsValid source → one < other →
        (ofOffset file source one).Before (ofOffset file source other)) ∧
    (∀ one other, (String.Pos.Raw.mk one).IsValid source →
      (String.Pos.Raw.mk other).IsValid source →
        ofOffset file source one = ofOffset file source other → one = other) ∧
    ∀ offset, (String.Pos.Raw.mk offset).IsValid source →
      (ofOffset file source offset).offsetIn? source = some offset := by
  refine ⟨fun one other first second less => Position.before_ofOffset first second less,
    fun one other first second same => ?_, fun offset => offsetIn?_ofOffset file⟩
  have back := offsetIn?_ofOffset file first
  rw [same, offsetIn?_ofOffset file second] at back
  exact (Option.some.inj back).symm

/-- Two lines, the second of which starts with a character of two bytes. -/
def accentedSource : String :=
  "[a]\né = 1\n"

theorem accented_locations_faithful :
    (String.Pos.Raw.mk 4).IsValid accentedSource ∧ (String.Pos.Raw.mk 6).IsValid accentedSource ∧
      (ofOffset "a.toml" accentedSource 4).Before (ofOffset "a.toml" accentedSource 6) ∧
      ofOffset "a.toml" accentedSource 6 = ⟨"a.toml", 2, 2⟩ ∧
      (Location.mk "a.toml" 2 2).offsetIn? accentedSource = some 6 := by
  have first : (String.Pos.Raw.mk 4).IsValid accentedSource :=
    String.Pos.Raw.isValid_iff_exists_append.2 ⟨"[a]\n", "é = 1\n", by decide, by decide⟩
  have second : (String.Pos.Raw.mk 6).IsValid accentedSource :=
    String.Pos.Raw.isValid_iff_exists_append.2 ⟨"[a]\né", " = 1\n", by decide, by decide⟩
  have there : ofOffset "a.toml" accentedSource 6 = ⟨"a.toml", 2, 2⟩ := by
    decide
  obtain ⟨ordered, -, back⟩ := locations_faithful "a.toml" accentedSource
  exact ⟨first, second, ordered 4 6 first second (by decide), there, there ▸ back 6 second⟩

end Location

end BuilderSynthesis.Schema
