namespace Monitor8080.Text

/-!
# Columns and pieces

Listings line up in columns that are counted in characters. Texts are joined
and cut at separators.
-/

/-- A text with spaces after it up to a width; a longer text stays as it is. -/
def padRight (width : Nat) (text : String) : String :=
  text ++ String.ofList (List.replicate (width - text.length) ' ')

def spaces (count : Nat) : String :=
  String.ofList (List.replicate count ' ')

def join (separator : String) (texts : List String) : String :=
  separator.intercalate texts

/-- The pieces of a text between separators. -/
def pieces (separator : Char) : List Char → List (List Char)
  | [] => [[]]
  | c :: rest =>
      if c = separator then
        [] :: pieces separator rest
      else
        match pieces separator rest with
        | [] => [[c]]
        | piece :: others => (c :: piece) :: others

end Monitor8080.Text
