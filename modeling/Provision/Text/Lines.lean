/-!
# Lines and pieces of a text

A text is cut at every occurrence of a character, so `pieces` always has one entry more than the
text has cuts; joining with the same character restores the text.
-/

namespace Provision
namespace Text

/-- The pieces of a text between the occurrences of a character. -/
def pieces (cut : Char) : List Char → List (List Char)
  | [] => [[]]
  | c :: rest =>
      if c = cut then [] :: pieces cut rest
      else
        match pieces cut rest with
        | [] => [[c]]
        | first :: others => (c :: first) :: others

def joinPieces (cut : Char) : List (List Char) → List Char
  | [] => []
  | [piece] => piece
  | piece :: rest => piece ++ cut :: joinPieces cut rest

/-- One line without the carriage return of a two-character line end. -/
def dropCarriageReturn : List Char → List Char
  | [] => []
  | ['\r'] => []
  | c :: rest => c :: dropCarriageReturn rest

/-- The lines of a text; a final line end opens no further line, and only a line that ends in a
line feed loses a carriage return before it. -/
def lines (cs : List Char) : List (List Char) :=
  go (pieces '\n' cs)
where
  go : List (List Char) → List (List Char)
    | [] => []
    | [[]] => []
    | [final] => [final]
    | line :: rest => dropCarriageReturn line :: go rest

theorem pieces_ne_nil (cut : Char) (cs : List Char) : pieces cut cs ≠ [] := by
  induction cs with
  | nil => simp [pieces]
  | cons c rest ih =>
      rw [pieces]
      split
      · simp
      · split <;> simp

theorem joinPieces_pieces (cut : Char) (cs : List Char) : joinPieces cut (pieces cut cs) = cs := by
  induction cs with
  | nil => rfl
  | cons c rest ih =>
      rw [pieces]
      split
      · next h =>
          subst h
          cases hp : pieces c rest with
          | nil => exact absurd hp (pieces_ne_nil c rest)
          | cons first others => simp [joinPieces, ← hp, ih]
      · cases hp : pieces cut rest with
        | nil => exact absurd hp (pieces_ne_nil cut rest)
        | cons first others =>
            rw [hp] at ih
            cases others with
            | nil => simpa [joinPieces] using ih
            | cons second more => simpa [joinPieces] using ih

end Text
end Provision
