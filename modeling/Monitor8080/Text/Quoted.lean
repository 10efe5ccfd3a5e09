import Monitor8080.Text.Blank
namespace Monitor8080.Text

/-!
# Quoted text in operator lines

A line holds commands separated by semicolons, and a command holds words
separated by blanks. Single and double quotes keep semicolons and blanks from
separating. Inside double quotes two double quotes stand for one single quote,
so a script can hold quoted text of its own.
-/

/-- Whether a character opens quoted text. -/
def isQuote (c : Char) : Bool :=
  c == '\x22' || c == '\x27'

/-- The quote that is open after a character, given the one open before it. -/
def quoteAfter (quote : Option Char) (c : Char) : Option Char :=
  match quote with
  | none => if isQuote c then some c else none
  | some opened => if c = opened then none else some opened

/-- The pieces between the semicolons that stand outside quotes, blanks included. -/
def semicolonPieces (quote : Option Char) : List Char → List (List Char)
  | [] => [[]]
  | c :: rest =>
      if quote = none ∧ c = ';' then
        [] :: semicolonPieces none rest
      else
        match semicolonPieces (quoteAfter quote c) rest with
        | [] => [[c]]
        | piece :: pieces => (c :: piece) :: pieces

/-- The commands of a line: its trimmed pieces without the empty ones. -/
def commandChars (line : List Char) : List (List Char) :=
  ((semicolonPieces none line).map trimChars).filter (!·.isEmpty)

/-- The commands of a line, in order. -/
def commandsOf (line : String) : List String :=
  (commandChars line.toList).map String.ofList

/-- A character added to the word under way, which it starts if there is none. -/
def extendWord (word : Option (List Char)) (c : Char) : Option (List Char) :=
  some (c :: word.getD [])

/-- The word under way as a finished one, if there is one. -/
def finishWord (word : Option (List Char)) : List (List Char) :=
  (word.map List.reverse).toList

/--
The words from some place in a text on.

`quote` is the quote that is open there and `word` the word under way, last
character first. A quote starts a word even if nothing stands inside it, so
empty words can be written.
-/
def wordsFrom : (quote : Option Char) → (word : Option (List Char)) → List Char →
    List (List Char)
  | _, word, [] => finishWord word
  | some '\x22', word, '\x22' :: '\x22' :: rest =>
      wordsFrom (some '\x22') (extendWord word '\x27') rest
  | some opened, word, c :: rest =>
      if c = opened then
        wordsFrom none word rest
      else
        wordsFrom (some opened) (extendWord word c) rest
  | none, word, c :: rest =>
      if isQuote c then
        wordsFrom (some c) (some (word.getD [])) rest
      else if isBlank c then
        finishWord word ++ wordsFrom none none rest
      else
        wordsFrom none (extendWord word c) rest

/-- The words of a text, with the quotes taken off. -/
def words (text : String) : List String :=
  (wordsFrom none none text.toList).map String.ofList

end Monitor8080.Text
