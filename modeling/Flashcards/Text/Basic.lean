/-!
# Texts

A text is the list of its characters, so that every reader and writer of this library is a function on lists and recursion on a
text is recursion on its structure. A string literal stands for the text of its characters wherever a text is expected.

The operations here know nothing of classes of characters; those are in the modules beside this one. The two searches
(`breakAt`, `replaceAll`) go from left to right and never look again at what they have passed.
-/

namespace Flashcards

/-- A text: its characters in order. -/
abbrev Text := List Char

/-- A literal stands for its characters. -/
scoped instance : Coe String Text := ⟨String.toList⟩

namespace Text

/-- The rest of the text after a given beginning, if it begins so. -/
def dropPrefix? : Text → Text → Option Text
  | [], t => some t
  | _ :: _, [] => none
  | p :: ps, c :: t => if p = c then dropPrefix? ps t else none

/-- Whether the text begins with a given one. -/
def startsWith (p t : Text) : Bool := (dropPrefix? p t).isSome

/-- The text less the beginning whose characters are all in a class. -/
def trimStart (p : Char → Bool) (t : Text) : Text := t.dropWhile p

/-- The text less the end whose characters are all in a class. -/
def trimEnd (p : Char → Bool) (t : Text) : Text := (t.reverse.dropWhile p).reverse

/-- The text less the beginning and the end whose characters are all in a class. -/
def trim (p : Char → Bool) (t : Text) : Text := trimEnd p (trimStart p t)

/-- The pieces between the characters of a class: one more than there are such characters, in order, some perhaps empty. -/
def splitWhere (p : Char → Bool) : Text → List Text
  | [] => [[]]
  | c :: t =>
    if p c then [] :: splitWhere p t
    else match splitWhere p t with
      | [] => [[c]]
      | w :: ws => (c :: w) :: ws

/-- The pieces between the occurrences of one character. -/
def splitOn (c : Char) (t : Text) : List Text := splitWhere (· == c) t

/-- The pieces in order, with a separator between each two. -/
def joinWith (sep : Text) : List Text → Text
  | [] => []
  | [w] => w
  | w :: ws => w ++ sep ++ joinWith sep ws

/-- The first place where a matcher accepts: what stands before it, and what the matcher leaves of the text from there on. -/
def breakAt (matcher : Text → Option Text) : Text → Option (Text × Text)
  | [] => (matcher []).map (([], ·))
  | c :: t =>
    match matcher (c :: t) with
    | some rest => some ([], rest)
    | none => (breakAt matcher t).map fun r => (c :: r.1, r.2)

/-- The first occurrence of a character: what stands before it and what stands after it. -/
def breakOn (x : Char) : Text → Option (Text × Text)
  | [] => none
  | c :: t => if c = x then some ([], t) else (breakOn x t).map fun r => (c :: r.1, r.2)

/-- A text before and after the first occurrence of a character; nothing is after it where it does not occur. -/
def cut (x : Char) (t : Text) : Text × Text := (breakOn x t).getD (t, [])

/-- Replacement from some place on, where `skip` more characters belong to an occurrence that has been replaced. -/
def replaceFrom (old new : Text) : Nat → Text → Text
  | _, [] => []
  | skip + 1, _ :: t => replaceFrom old new skip t
  | 0, c :: t =>
    if startsWith old (c :: t) then new ++ replaceFrom old new (old.length - 1) t
    else c :: replaceFrom old new 0 t

/-- Every occurrence of a non-empty text replaced by another: occurrences are found from left to right, they do not overlap, and
what was put in is not searched. -/
def replaceAll (old new t : Text) : Text := replaceFrom old new 0 t

/-- Text of a character count of hexadecimal digits at least `width` wide, lower case, zeros in front. -/
def hex (width n : Nat) : Text :=
  let digits := Nat.toDigits 16 n
  List.replicate (width - digits.length) '0' ++ digits

/-- A natural number in decimal. -/
def ofNat (n : Nat) : Text := Nat.toDigits 10 n

/-- An integer in decimal, a minus sign in front of a negative one. -/
def ofInt : Int → Text
  | .ofNat n => ofNat n
  | .negSucc n => '-' :: ofNat (n + 1)

/-- Whether the text has at least one character. -/
def nonEmpty (t : Text) : Bool := !t.isEmpty

/-- Texts compared by their characters' code points, the shorter first where one begins the other. -/
def before : Text → Text → Bool
  | _, [] => false
  | [], _ :: _ => true
  | a :: s, b :: t => if a = b then before s t else a.val < b.val

/-- Inserts a text into a list sorted by `before`. -/
def insertSorted (t : Text) : List Text → List Text
  | [] => [t]
  | u :: us => if before u t then u :: insertSorted t us else t :: u :: us

/-- The texts sorted by `before`. -/
def sort (ts : List Text) : List Text := ts.foldr insertSorted []

end Text

end Flashcards
