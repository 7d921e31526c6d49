import GirAda.Xml.Fault
import GirAda.Text.Bytes

/-!
# Reading markup into tokens

`scan` cuts a document into tokens, each with the byte offset at which its reading started:
character data, CDATA sections, start tags, empty-element tags, end tags, and markup without
content (comments, declarations and processing instructions, document types). Reading stops
at the end of the input or at the first fault, which is returned with the offset of the read
that met it.

Character data are one read, placed where they start; markup is placed at its `<`. Quotes are
paired in start and end tags alike, so a `>` between quotes does not end a tag. End tags must
close the innermost open tag of the same name: the name of a start tag runs to its first
blank, and that of an end tag is all its text but the blanks at the end. References in
character data are not decoded here.
-/

namespace GirAda.Xml

open GirAda.Text

/-- The blanks of markup: space, tab, carriage return and line feed. -/
def isMarkupBlank (c : Char) : Bool := c == ' ' || c == '\t' || c == '\r' || c == '\n'

/-- The apostrophe, which may quote attribute values as the double quote does. -/
def apostrophe : Char := Char.ofNat 39

/-- A piece of a document as the reader finds it. Tags keep their text between the angle
brackets (without the closing `/` of an empty-element tag); end tags keep their name. -/
inductive Token where
  | text (raw : String)
  | cdata (raw : String)
  | start (tag : String)
  | empty (tag : String)
  | close (name : String)
  | comment (body : String)
  | instruction (body : String)
  | doctype (body : String)
  deriving DecidableEq, Repr, Inhabited

/-- The name of a tag: its characters up to the first blank. -/
def tagName (tag : List Char) : List Char := tag.takeWhile (fun c => !isMarkupBlank c)

/-- The index of the first `>` outside quotes; `quote` is the quote open before the list. -/
def tagEnd (quote : Option Char) : List Char → Option Nat
  | [] => none
  | c :: cs =>
    match quote with
    | none =>
      if c == '>' then some 0
      else if c == '"' || c == apostrophe then (tagEnd (some c) cs).map (· + 1)
      else (tagEnd none cs).map (· + 1)
    | some q => (tagEnd (if c == q then none else some q) cs).map (· + 1)

/-- The index of the first `>` that follows a `?`; `prev` is the character before the list. -/
def instructionEnd (prev : Char) : List Char → Option Nat
  | [] => none
  | c :: cs => if c == '>' && prev == '?' then some 0 else (instructionEnd c cs).map (· + 1)

/-- The index of the first `>` that follows `--` and stands more than four bytes into the
markup; `pos` is the byte offset of the list and `p2`, `p1` the two characters before it. -/
def commentEnd (pos : Nat) (p2 p1 : Char) : List Char → Option Nat
  | [] => none
  | c :: cs =>
    if c == '>' && 4 < pos && p2 == '-' && p1 == '-' then some 0
    else (commentEnd (pos + c.utf8Size) p1 c cs).map (· + 1)

/-- The index of the first `>` that follows `]]`; `p2`, `p1` are the characters before the list. -/
def cdataEnd (p2 p1 : Char) : List Char → Option Nat
  | [] => none
  | c :: cs =>
    if c == '>' && p2 == ']' && p1 == ']' then some 0 else (cdataEnd p1 c cs).map (· + 1)

/-- The index of the first `>` not matched by an earlier `<`; `depth` counts the open `<`. -/
def doctypeEnd (depth : Nat) : List Char → Option Nat
  | [] => none
  | c :: cs =>
    if c == '<' then (doctypeEnd (depth + 1) cs).map (· + 1)
    else if c == '>' then
      if depth == 0 then some 0 else (doctypeEnd (depth - 1) cs).map (· + 1)
    else (doctypeEnd depth cs).map (· + 1)

/-- Whether the list starts with the characters of `word`, ignoring ASCII case. -/
def startsWithCaseless (cs : List Char) (word : String) : Bool :=
  word.length ≤ cs.length &&
    (cs.zip word.toList).all (fun p => p.1.toLower == p.2.toLower)

/-- The name in an end tag: blanks at its end are dropped, unless it has nothing else. -/
def closeName (body : List Char) : String :=
  let trimmed := (body.reverse.dropWhile isMarkupBlank).reverse
  if trimmed.isEmpty then String.ofList body else String.ofList trimmed

/-- Read markup that starts with `<!`: a CDATA section, a comment or a document type.
`chunk` starts at the `!`; the result holds the index of the closing `>`. -/
def readBang (chunk : List Char) : Except ReadError (Token × Nat) :=
  match chunk.drop 1 with
  | '[' :: _ =>
    match cdataEnd '!' '!' chunk with
    | none => .error (.markup .unclosedCData)
    | some i =>
      let buf := chunk.take i
      if buf.take 8 == "![CDATA[".toList then
        .ok (.cdata (String.ofList (buf.drop 8).dropLast.dropLast), i)
      else .error (.markup .unclosedCData)
  | '-' :: _ =>
    match commentEnd 0 '!' '!' chunk with
    | none => .error (.markup .unclosedComment)
    | some i =>
      let buf := chunk.take i
      if buf.take 3 == ['!', '-', '-'] then
        .ok (.comment (String.ofList (buf.drop 3).dropLast.dropLast), i)
      else .error (.markup .unclosedComment)
  | c :: _ =>
    if c == 'D' || c == 'd' then
      match doctypeEnd 0 chunk with
      | none => .error (.markup .unclosedDoctype)
      | some i =>
        let buf := chunk.take i
        if startsWithCaseless buf "!DOCTYPE" then
          match (buf.drop 8).dropWhile isMarkupBlank with
          | [] => .error (.illFormed .missingDoctypeName)
          | body => .ok (.doctype (String.ofList body), i)
        else .error (.markup .unclosedDoctype)
    else .error (.markup .unknownBang)
  | [] => .error (.markup .unknownBang)

/-- Read the markup after a `<`, given the names of the open tags, innermost first. The result
is the token, the index of the closing `>` and the open tags after it. -/
def readMarkup (opened : List String) : List Char → Except ReadError (Token × Nat × List String)
  | [] => .error (.markup .unclosedTag)
  | c :: r =>
    if c == '!' then (readBang (c :: r)).map (fun (t, i) => (t, i, opened))
    else if c == '/' then
      match tagEnd none r with
      | none => .error (.markup .unclosedTag)
      | some j =>
        let name := closeName (r.take j)
        match opened with
        | [] => .error (.illFormed (.unmatchedClose name))
        | e :: rest =>
          if e == name then .ok (.close name, j + 1, rest)
          else .error (.illFormed (.mismatchedClose e name))
    else if c == '?' then
      match instructionEnd '?' r with
      | none => .error (.markup .unclosedInstruction)
      | some j =>
        if j == 0 then .error (.markup .unclosedInstruction)
        else .ok (.instruction (String.ofList (r.take (j - 1))), j + 1, opened)
    else
      match tagEnd none (c :: r) with
      | none => .error (.markup .unclosedTag)
      | some i =>
        let buf := (c :: r).take i
        if buf.getLast? == some '/' then .ok (.empty (String.ofList buf.dropLast), i, opened)
        else .ok (.start (String.ofList buf), i, String.ofList (tagName buf) :: opened)

/-- The tokens of a document, each with the offset where its read started, and the fault that
stopped reading, if any. -/
structure Scan where
  tokens : List (Nat × Token)
  fault : Option (Nat × ReadError)
  deriving Inhabited

theorem length_lt_of_dropWhile_eq_cons {q : Char → Bool} {cs chunk : List Char} {c : Char}
    (h : cs.dropWhile q = c :: chunk) : chunk.length < cs.length := by
  have hsuf : cs.dropWhile q <:+ cs := List.dropWhile_suffix q
  have hs := hsuf.length_le
  rw [h] at hs
  simp only [List.length_cons] at hs
  omega

/-- Read tokens from `cs`, which starts at byte `pos`, given the names of the open tags. -/
def scanFrom (opened : List String) (pos : Nat) (cs : List Char) : Scan :=
  let txt := cs.takeWhile (· != '<')
  let texts := if txt.isEmpty then [] else [(pos, Token.text (String.ofList txt))]
  match h : cs.dropWhile (· != '<') with
  | [] => ⟨texts, none⟩
  | _ :: chunk =>
    let start := pos + byteLength txt
    let here := start + 1
    match readMarkup opened chunk with
    | .error e => ⟨texts, some (start, e)⟩
    | .ok (tok, i, opened') =>
      have hc := length_lt_of_dropWhile_eq_cons h
      have : (chunk.drop (i + 1)).length < cs.length := by
        simp only [List.length_drop]; omega
      let more := scanFrom opened' (here + byteLength (chunk.take (i + 1))) (chunk.drop (i + 1))
      ⟨texts ++ (start, tok) :: more.tokens, more.fault⟩
termination_by cs.length

/-- The byte order mark, which a document may start with. -/
def byteOrderMark : Char := Char.ofNat 0xFEFF

/-- The tokens of a document and the fault that stopped reading, if any. A leading byte order
mark is skipped and not counted in offsets. -/
def scan (s : String) : Scan :=
  match s.toList with
  | c :: cs => if c == byteOrderMark then scanFrom [] 0 cs else scanFrom [] 0 (c :: cs)
  | [] => scanFrom [] 0 []

end GirAda.Xml
