/-!
# Upper case as Latin letters see it

The full Unicode upper case of a text maps each character to one or more characters. Where
only runs of the Latin letters `A` to `Z` matter (as when a declared column type is searched
for `INT` or `CHAR`), the upper case of a character matters only through the Latin letters
it holds and where they stand.

The characters whose upper case holds a Latin letter are the letters `a` to `z` and the
capitals themselves, the dotless `ı` and the long `ſ`, and those whose upper case is a
sequence: `ß`, `ŉ`, `ǰ`, `ẖ`, `ẗ`, `ẘ`, `ẙ`, `ẚ` and the ligatures `ﬀ` to `ﬆ`. Every other
character has an upper case with no Latin letter in it, so it is kept as it is: it stands
for a run of characters that no Latin needle can cross.
-/

namespace Payout.Text

/-- The upper case of a character, exact wherever it holds a Latin letter; any other
character stands for itself. -/
def upperLatin (c : Char) : List Char :=
  if 'a' ≤ c && c ≤ 'z' then [Char.ofNat (c.toNat - 32)]
  else match c.toNat with
    | 0x0131 => ['I']
    | 0x017F => ['S']
    | 0x00DF => ['S', 'S']
    | 0x0149 => ['ʼ', 'N']
    | 0x01F0 => ['J', '̌']
    | 0x1E96 => ['H', '̱']
    | 0x1E97 => ['T', '̈']
    | 0x1E98 => ['W', '̊']
    | 0x1E99 => ['Y', '̊']
    | 0x1E9A => ['A', 'ʾ']
    | 0xFB00 => ['F', 'F']
    | 0xFB01 => ['F', 'I']
    | 0xFB02 => ['F', 'L']
    | 0xFB03 => ['F', 'F', 'I']
    | 0xFB04 => ['F', 'F', 'L']
    | 0xFB05 => ['S', 'T']
    | 0xFB06 => ['S', 'T']
    | _ => [c]

/-- The upper case of a text, exact wherever it holds a Latin letter. -/
def upperLatinText (s : String) : String :=
  String.ofList (s.toList.flatMap upperLatin)

end Payout.Text
