import PlainEnglish.Text.Letter

/-!
# Text in small letters

Each capital letter becomes its small letter. Two letters are special: the dotted capital I keeps
its dot as a mark of its own, and a capital sigma that ends a word becomes the final sigma.
-/

namespace PlainEnglish

/-- Whether a cased character comes first, once the characters to pass over are passed over. -/
def Text.meetsCased (t : Text) : Bool :=
  match t.dropWhile isCaseIgnorable with
  | c :: _ => isCased c
  | [] => false

/-- Small letters for a text that has the characters of `before`, nearest first, in front. -/
def Text.lowercaseAfter (before : Text) : Text → Text → Text
  | [], done => done.reverse
  | c :: rest, done =>
    let small : Text :=
      if c = '\u0130' then ['\u0307', 'i']
      else if c = '\u03a3' then
        if Text.meetsCased before && !Text.meetsCased rest then ['\u03c2'] else ['\u03c3']
      else [smallLetter c]
    Text.lowercaseAfter (c :: before) rest (small ++ done)

/-- The text in small letters. -/
def Text.lowercase (t : Text) : Text := Text.lowercaseAfter [] t []

end PlainEnglish
