import Relink.Proofs.Yaml.Scalar
import Relink.Yaml.Lexer

/-! How a lexer moves on in documents that are written in lines: over a key at the beginning of a line, over the values that
stand behind it, and over the end of a block. -/

namespace Relink.Yaml.Lexer

open Scalar (IsWord isHeld)

/-- The lexer at the beginning of its next token, with the blocks closed that have ended before it. -/
def settled (lexer : Lexer) : Lexer :=
  lexer.toNextToken.unroll lexer.toNextToken.position.column

/-- A lexer comes to another in some steps, of which each takes a character at least. -/
def Reaches (lexer later : Lexer) : Prop :=
  ∃ steps, steps + later.rest.length ≤ lexer.rest.length ∧ ∀ fuel, run? (steps + fuel) lexer = run? fuel later

/-- A lexer outside of flow collections, without a candidate for a key. -/
def inBlock (rest : List Char) (position : Position) (indent : Int) (outer : List Int) (keyAllowed : Bool)
    (tokens : List Token) : Lexer :=
  ⟨rest, position, indent, outer, none, [], keyAllowed, tokens⟩

/-- A lexer behind a word at a column, which becomes a key if a colon follows. -/
def behindWord (word rest : List Char) (line column : Nat) (indent : Int) (outer : List Int) (tokens : List Token) :
    Lexer :=
  ⟨rest, ⟨line, column + word.length⟩, indent, outer,
    some ⟨⟨line, column⟩, word ++ rest, tokens.length, indent == column⟩, [], false,
    .scalar (String.ofList word) true :: tokens⟩

/-- A lexer before an item of a flow collection that lies in a block. -/
def beforeItem (rest : List Char) (position : Position) (indent : Int) (outer : List Int) (tokens : List Token) : Lexer :=
  ⟨rest, position, indent, outer, none, [none], true, tokens⟩

/-- A lexer behind a token of a flow collection that lies in a block. What was noted there need not become a key. -/
structure BehindItem (lexer : Lexer) (rest : List Char) (indent : Int) (outer : List Int) (tokens : List Token) : Prop where
  rest : lexer.rest = rest
  indent : lexer.indent = indent
  outer : lexer.outerIndents = outer
  free : lexer.candidate.any (·.required) = false
  nested : lexer.outerCandidates = [none]
  tokens : lexer.tokens = tokens

variable {lexer next later last : Lexer} {c : Char} {rest : List Char} {position : Position} {indent : Int}
  {outer : List Int} {tokens : List Token} {keyAllowed flow : Bool}

section Steps

theorem run?_succ (fuel : Nat) (lexer : Lexer) : run? (fuel + 1) lexer =
    match lexer.settled.rest with
    | [] => lexer.settled.finish?
    | c :: rest => (lexer.settled.fetch? c rest).bind (run? fuel) := rfl

theorem run?_congr (same : lexer.settled = later.settled) (fuel : Nat) : run? fuel lexer = run? fuel later := by
  cases fuel with
  | zero => rfl
  | succ fuel => rw [run?_succ, run?_succ, same]

theorem Reaches.trans (first : Reaches lexer later) (second : Reaches later last) : Reaches lexer last := by
  obtain ⟨steps, shorter, run⟩ := first
  obtain ⟨more, further, onward⟩ := second
  refine ⟨steps + more, by omega, fun fuel => ?_⟩
  rw [Nat.add_assoc, run, onward]

theorem Reaches.of_settled (same : lexer.settled = later.settled) (shorter : later.rest.length ≤ lexer.rest.length) :
    Reaches lexer later :=
  ⟨0, by simpa using shorter, fun fuel => by rw [Nat.zero_add, run?_congr same]⟩

/-- One token is read; what the lexer then comes to may stand anywhere before the next one. -/
theorem Reaches.of_fetch? (here : lexer.settled.rest = c :: rest) (fetched : lexer.settled.fetch? c rest = some next)
    (same : next.settled = later.settled) (shorter : later.rest.length < lexer.rest.length) : Reaches lexer later := by
  refine ⟨1, by omega, fun fuel => ?_⟩
  rw [Nat.add_comm, run?_succ, here]
  dsimp only
  rw [fetched, Option.bind_some, run?_congr same]

end Steps

section Space

/-- A character that is neither skipped before a token nor begins a comment. -/
def isSolid (c : Char) : Bool :=
  !(isSpace c || c == '#' || c == '\uFEFF')

theorem isSolid_of_isAlphanum (word : c.isAlphanum = true) : isSolid c = true := by
  have name : isNameChar c = true := by simp [isNameChar, word]
  simp [isSolid, Scalar.isSpace_of_isVisible (Scalar.isVisible_of_isNameChar name),
    Scalar.ne_of_isNameChar name (d := '#') rfl, Scalar.ne_of_isNameChar name (d := '\uFEFF') rfl]

theorem skipSpace_solid (solid : isSolid c = true) (rest : List Char) :
    skipSpace flow keyAllowed false position (c :: rest) = (keyAllowed, position, c :: rest) := by
  simp only [isSolid, isSpace, isGap, Bool.not_eq_true', Bool.or_eq_false_iff] at solid
  obtain ⟨⟨⟨⟨blank, tab⟩, ends⟩, comment⟩, mark⟩ := solid
  simp [skipSpace, blank, tab, ends, comment, mark]

theorem skipSpace_blanks (count : Nat) (rest : List Char) :
    skipSpace flow keyAllowed false position (List.replicate count ' ' ++ rest) =
      skipSpace flow keyAllowed false (position.forward count) rest := by
  induction count generalizing position with
  | zero => rfl
  | succ count ih =>
    rw [List.replicate_succ, List.cons_append, skipSpace, if_neg (by decide), if_pos (by simp), ih]
    simp only [Position.forward, Nat.add_assoc, Nat.add_comm 1 count]

theorem settled_blank (here : lexer.rest = ' ' :: rest) :
    lexer.settled = { lexer with rest := rest, position := lexer.position.forward 1 }.settled := by
  have skipped : lexer.toNextToken = { lexer with rest := rest, position := lexer.position.forward 1 }.toNextToken := by
    have blank : skipSpace lexer.inFlow lexer.keyAllowed false lexer.position (' ' :: rest) =
        skipSpace lexer.inFlow lexer.keyAllowed false (lexer.position.forward 1) rest := skipSpace_blanks 1 rest
    rw [toNextToken, here, blank]
    rfl
  rw [settled, skipped]
  rfl

/-- Outside of flow collections a key may begin after a line end. -/
theorem settled_lineFeed :
    (inBlock ('\n' :: rest) position indent outer keyAllowed tokens).settled =
      (inBlock rest position.nextLine indent outer true tokens).settled := by
  have skipped : skipSpace false keyAllowed false position ('\n' :: rest) =
      skipSpace false true false position.nextLine rest := by
    rw [skipSpace, if_pos (by decide), Bool.not_false, Bool.or_true]
  simp only [settled, toNextToken, inBlock, inFlow, List.isEmpty_nil, Bool.not_true, skipped]

end Space

section Blocks

theorem closeBlocks_of_le {column : Int} (within : indent ≤ column) (outer : List Int) (tokens : List Token) :
    closeBlocks column indent outer tokens = (indent, outer, tokens) := by
  cases outer with
  | nil => rfl
  | cons first further => rw [closeBlocks, if_neg (Int.not_lt.mpr within)]

theorem closeBlocks_of_lt {column first : Int} (beyond : column < indent) (further : List Int) (tokens : List Token) :
    closeBlocks column indent (first :: further) tokens = closeBlocks column first further (.blockEnd :: tokens) := by
  rw [closeBlocks, if_pos beyond]

/-- Where blanks and line ends have been skipped, the blocks are closed that end there. -/
theorem settled_inBlock {place : Position} {allowed : Bool} {text : List Char}
    (skipped : skipSpace false keyAllowed false position rest = (allowed, place, text)) :
    (inBlock rest position indent outer keyAllowed tokens).settled =
      inBlock text place (closeBlocks place.column indent outer tokens).1
        (closeBlocks place.column indent outer tokens).2.1 allowed (closeBlocks place.column indent outer tokens).2.2 := by
  simp [settled, toNextToken, unroll, inBlock, inFlow, skipped]

/-- A lexer that has its next token before it stays as it is, if no block ends there. -/
theorem settled_of_solid (here : lexer.rest = c :: rest) (solid : isSolid c = true)
    (within : lexer.inFlow = true ∨ lexer.indent ≤ lexer.position.column) : lexer.settled = lexer := by
  have stays : lexer.toNextToken = lexer := by
    rw [toNextToken, here, skipSpace_solid solid]
    simp only [← here]
  rw [settled, stays, unroll]
  rcases within with inFlow | within
  · rw [if_pos inFlow]
  · rw [closeBlocks_of_le within, ite_self]

/-- What may follow the lines of an entry: nothing, or a line that begins with a word no further in than a column. -/
inductive Follows (column : Nat) : List Char → Prop where
  | finish : Follows column []
  | line {blanks : Nat} {c : Char} {rest : List Char} (within : blanks ≤ column) (word : c.isAlphanum = true) :
    Follows column (List.replicate blanks ' ' ++ c :: rest)

theorem Follows.mono {column further : Nat} (follows : Follows column rest) (within : column ≤ further) :
    Follows further rest := by
  cases follows with
  | finish => exact .finish
  | line here word => exact .line (Nat.le_trans here within) word

theorem Follows.skipSpace {column line : Nat} (follows : Follows column rest) :
    ∃ blanks text, blanks ≤ column ∧ Lexer.skipSpace false keyAllowed false ⟨line, 0⟩ rest =
      (keyAllowed, ⟨line, blanks⟩, text) := by
  cases follows with
  | finish => exact ⟨0, [], Nat.zero_le _, rfl⟩
  | @line blanks c text within word =>
    refine ⟨blanks, c :: text, within, ?_⟩
    rw [skipSpace_blanks, skipSpace_solid (isSolid_of_isAlphanum word)]
    simp [Position.forward]

/-- A block has ended where a line begins that is not as far in. -/
theorem Follows.settled_close {column line : Nat} {inner : Int} (follows : Follows column rest)
    (further : (column : Int) < inner) :
    (inBlock rest ⟨line, 0⟩ inner (indent :: outer) keyAllowed tokens).settled =
      (inBlock rest ⟨line, 0⟩ indent outer keyAllowed (.blockEnd :: tokens)).settled := by
  obtain ⟨blanks, text, within, skipped⟩ := @Follows.skipSpace _ keyAllowed column line follows
  have beyond : ((⟨line, blanks⟩ : Position).column : Int) < inner := by
    dsimp only
    omega
  rw [settled_inBlock skipped, settled_inBlock skipped, closeBlocks_of_lt beyond]

/-- At the end of the text the block around all others ends. -/
theorem run?_finish (fuel line : Nat) (tokens : List Token) :
    run? (fuel + 1) (inBlock [] ⟨line, 0⟩ 0 [-1] true tokens) = some (tokens.reverse ++ [.blockEnd, .streamEnd]) := by
  have finished : run? (fuel + 1) (inBlock [] ⟨line, 0⟩ 0 [-1] true tokens) =
      some (Token.streamEnd :: .blockEnd :: tokens).reverse := rfl
  rw [finished]
  simp

end Blocks

section Fetch

theorem isDocumentMark_of_ne {mark : Char} (differs : c ≠ mark) (rest : List Char) :
    isDocumentMark mark position (c :: rest) = false := by
  unfold isDocumentMark
  split <;> simp_all

theorem fetch?_of_isAlphanum (here : lexer.rest = c :: rest) (word : c.isAlphanum = true) :
    lexer.fetch? c rest = lexer.plainScalar? := by
  have apart (d : Char) (other : d.isAlphanum = false) : c ≠ d := by
    rintro rfl
    cases word.symm.trans other
  simp [fetch?, here, isDocumentMark_of_ne (apart '-' rfl), isDocumentMark_of_ne (apart '.' rfl), beginsPlain, isGap,
    apart '%' rfl, apart '[' rfl, apart '\x7b' rfl, apart ']' rfl, apart '\x7d' rfl, apart ',' rfl, apart '-' rfl,
    apart '?' rfl, apart ':' rfl, apart '*' rfl, apart '&' rfl, apart '!' rfl, apart '|' rfl, apart '>' rfl,
    apart '\'' rfl, apart '"' rfl, apart ' ' rfl, apart '\t' rfl, apart '#' rfl, apart '@' rfl, apart '\x60' rfl]

/-- The colon before a value stands before a blank or a line end. -/
theorem fetch?_colon (here : lexer.rest = ':' :: rest) (ends : atWordEnd rest = true) :
    lexer.fetch? ':' rest = lexer.value? := by
  simp [fetch?, here, isDocumentMark_of_ne, ends]

theorem fetch?_openBracket (here : lexer.rest = '[' :: rest) :
    lexer.fetch? '[' rest = lexer.openFlow? .flowSequenceStart := by
  simp [fetch?, here, isDocumentMark_of_ne]

theorem fetch?_closeBracket (here : lexer.rest = ']' :: rest) :
    lexer.fetch? ']' rest = lexer.closeFlow? .flowSequenceEnd := by
  simp [fetch?, here, isDocumentMark_of_ne]

theorem fetch?_openBrace (here : lexer.rest = '\x7b' :: rest) :
    lexer.fetch? '\x7b' rest = lexer.openFlow? .flowMappingStart := by
  simp [fetch?, here, isDocumentMark_of_ne]

theorem fetch?_closeBrace (here : lexer.rest = '\x7d' :: rest) :
    lexer.fetch? '\x7d' rest = lexer.closeFlow? .flowMappingEnd := by
  simp [fetch?, here, isDocumentMark_of_ne]

theorem fetch?_comma (here : lexer.rest = ',' :: rest) : lexer.fetch? ',' rest = lexer.comma? := by
  simp [fetch?, here, isDocumentMark_of_ne]

theorem fetch?_quote (here : lexer.rest = '"' :: rest) : lexer.fetch? '"' rest = lexer.quotedScalar? '"' := by
  simp [fetch?, here, isDocumentMark_of_ne]

end Fetch

section Candidates

/-- Where a key may begin, a candidate for one is noted. -/
theorem noteCandidate?_inBlock :
    (inBlock rest position indent outer true tokens).noteCandidate? =
      some { inBlock rest position indent outer true tokens with
        candidate := some ⟨position, rest, tokens.length, indent == position.column⟩ } := rfl

/-- In a value of a block mapping no key may begin. -/
theorem noteCandidate?_value :
    (inBlock rest position indent outer false tokens).noteCandidate? =
      some (inBlock rest position indent outer false tokens) := rfl

theorem dropCandidate?_of_free (free : lexer.candidate.any (·.required) = false) :
    lexer.dropCandidate? = some { lexer with candidate := none } := by
  rw [dropCandidate?, free]
  rfl

theorem plainScalar?_of_plain? {reading : Scalar.Reading} (noted : lexer.noteCandidate? = some next)
    (reads : Scalar.plain? next.inFlow (next.indent + 1) next.position next.rest = some reading) :
    lexer.plainScalar? = some ({ next with keyAllowed := reading.lineEnded }.acceptScalar true reading) := by
  rw [plainScalar?, noted]
  simp only [Option.bind_eq_bind, Option.bind_some, reads]
  rfl

/-- A candidate that the colon comes soon enough after becomes a key. -/
theorem value?_of_isAlive {candidate : KeyCandidate} (noted : lexer.candidate = some candidate)
    (alive : candidate.isAlive lexer.position = true) :
    lexer.value? = some (((lexer.settleCandidate candidate).skip 1).push .value) := by
  rw [value?, noted]
  simp only [alive, if_true]
  rfl

/-- A key is put in before the latest token, and begins a block if it is further in than the innermost one's keys. -/
theorem settleCandidate_latest {candidate : KeyCandidate} {token : Token} (block : lexer.outerCandidates = [])
    (latest : lexer.tokens = token :: tokens) (count : candidate.tokenCount = tokens.length) :
    lexer.settleCandidate candidate =
      if lexer.indent < candidate.start.column then
        { lexer with
          indent := candidate.start.column
          outerIndents := lexer.indent :: lexer.outerIndents
          candidate := none
          keyAllowed := false
          tokens := token :: .key :: .blockMappingStart :: tokens }
      else { lexer with candidate := none, keyAllowed := false, tokens := token :: .key :: tokens } := by
  have inserts (inserted : List Token) :
      insertAfter candidate.tokenCount inserted lexer.tokens = token :: (inserted.reverse ++ tokens) := by
    simp [insertAfter, latest, count]
  by_cases opens : lexer.indent < candidate.start.column <;> simp [settleCandidate, inFlow, block, opens, inserts]

/-- A short word can still be a key at the colon behind it. -/
theorem isAlive_after_word {word : List Char} (names : ∀ c ∈ word, isNameChar c = true)
    (short : word.length ≤ KeyCandidate.greatestLength) (position : Position) (count : Nat) (required : Bool) :
    (KeyCandidate.mk position (word ++ rest) count required).isAlive (position.forward word.length) = true := by
  have octets (size : Nat) : word.foldl (fun size c => size + c.utf8Size) size = size + word.length := by
    clear short
    induction word generalizing size with
    | nil => rfl
    | cons c word ih =>
      obtain ⟨here, later⟩ := List.forall_mem_cons.mp names
      rw [List.foldl_cons, ih later, Scalar.utf8Size_of_isVisible (Scalar.isVisible_of_isNameChar here), List.length_cons]
      omega
  simp [KeyCandidate.isAlive, Position.forward, short, octets]

end Candidates

section Values

variable {word : List Char} {column : Nat}

/-- A word at the beginning of a line is noted as what may be a key. -/
theorem reaches_behindWord (line : Nat) (outer : List Int) (tokens : List Token) (isWord : IsWord word)
    (within : indent ≤ column) (ends : atWordEnd rest = true) :
    Reaches (inBlock (List.replicate column ' ' ++ word ++ ':' :: rest) ⟨line, 0⟩ indent outer true tokens)
      (behindWord word (':' :: rest) line column indent outer tokens) := by
  obtain ⟨⟨c, more, rfl, alphanum⟩, names⟩ := isWord
  have skipped : skipSpace false true false ⟨line, 0⟩ (List.replicate column ' ' ++ (c :: more) ++ ':' :: rest) =
      (true, ⟨line, column⟩, c :: more ++ ':' :: rest) := by
    rw [List.append_assoc, skipSpace_blanks, List.cons_append, skipSpace_solid (isSolid_of_isAlphanum alphanum)]
    simp [Position.forward]
  have settles : (inBlock (List.replicate column ' ' ++ (c :: more) ++ ':' :: rest) ⟨line, 0⟩ indent outer true
      tokens).settled = inBlock (c :: more ++ ':' :: rest) ⟨line, column⟩ indent outer true tokens := by
    rw [settled_inBlock skipped, closeBlocks_of_le within]
  have reads : Scalar.plain? false (indent + 1) ⟨line, column⟩ (c :: more ++ ':' :: rest) =
      some ⟨String.ofList (c :: more), ⟨line, column + (c :: more).length⟩, ':' :: rest, false⟩ :=
    Scalar.plain?_before names (by decide) (by simp [Scalar.endsBefore, ends]) rfl
  have fetched : (inBlock (c :: more ++ ':' :: rest) ⟨line, column⟩ indent outer true tokens).fetch? c
      (more ++ ':' :: rest) = some (behindWord (c :: more) (':' :: rest) line column indent outer tokens) := by
    rw [fetch?_of_isAlphanum rfl alphanum]
    exact plainScalar?_of_plain? noteCandidate?_inBlock reads
  refine .of_fetch? (by rw [settles]; rfl) (by rw [settles]; exact fetched) rfl ?_
  simp only [behindWord, inBlock, List.length_append, List.length_cons]
  omega

/-- A short word behind which there is a colon becomes the key of an entry, which begins a block if it is further in than
the innermost one. -/
theorem behindWord_reaches (line : Nat) (outer : List Int) (tokens : List Token) (isWord : IsWord word)
    (short : word.length ≤ KeyCandidate.greatestLength) (within : indent ≤ column) (ends : atWordEnd rest = true) :
    Reaches (behindWord word (':' :: rest) line column indent outer tokens)
      (inBlock rest ⟨line, column + word.length + 1⟩ column (if indent < column then indent :: outer else outer) false
        (.value :: .scalar (String.ofList word) true :: .key ::
          (if indent < column then .blockMappingStart :: tokens else tokens))) := by
  have place : indent ≤ ((column + word.length : Nat) : Int) := by omega
  have stays : (behindWord word (':' :: rest) line column indent outer tokens).settled =
      behindWord word (':' :: rest) line column indent outer tokens := settled_of_solid rfl (by decide) (.inr place)
  have alive : (KeyCandidate.mk ⟨line, column⟩ (word ++ ':' :: rest) tokens.length (indent == column)).isAlive
      ⟨line, column + word.length⟩ = true := isAlive_after_word isWord.names short _ _ _
  refine .of_fetch? (by rw [stays]; rfl) ?_ rfl (Nat.lt_succ_self _)
  rw [stays, fetch?_colon rfl ends, value?_of_isAlive rfl alive, settleCandidate_latest rfl rfl rfl]
  by_cases opens : indent < column
  · simp only [behindWord, opens, if_true]
    rfl
  · obtain rfl : indent = column := by omega
    simp only [behindWord, Int.lt_irrefl, if_false]
    rfl

theorem reaches_word (isWord : IsWord word) (within : (column : Int) ≤ position.column) (follows : Follows column rest) :
    Reaches (inBlock (word ++ '\n' :: rest) position column outer false tokens)
      (inBlock rest position.nextLine column outer true (.scalar (String.ofList word) true :: tokens)) := by
  obtain ⟨⟨c, more, rfl, alphanum⟩, names⟩ := isWord
  have stays : (inBlock (c :: more ++ '\n' :: rest) position column outer false tokens).settled =
      inBlock (c :: more ++ '\n' :: rest) position column outer false tokens :=
    settled_of_solid rfl (isSolid_of_isAlphanum alphanum) (.inr within)
  have fetched {reading : Scalar.Reading}
      (reads : Scalar.plain? false (column + 1) position (c :: more ++ '\n' :: rest) = some reading) :
      (inBlock (c :: more ++ '\n' :: rest) position column outer false tokens).settled.fetch? c (more ++ '\n' :: rest) =
        some (inBlock reading.rest reading.position column outer reading.lineEnded
          (.scalar reading.text true :: tokens)) := by
    rw [stays, fetch?_of_isAlphanum rfl alphanum]
    exact plainScalar?_of_plain? noteCandidate?_value reads
  have shorter : rest.length < (c :: more ++ '\n' :: rest).length := by
    simp
    omega
  cases follows with
  | finish => exact .of_fetch? (by rw [stays]; rfl) (fetched (Scalar.plain?_finish names)) rfl shorter
  | @line blanks d text near word =>
    have solid := isSolid_of_isAlphanum word
    have visible : isSpace d = false := by
      simp only [isSolid, Bool.not_eq_true', Bool.or_eq_false_iff] at solid
      exact solid.1.1
    refine .of_fetch? (by rw [stays]; rfl) (fetched (Scalar.plain?_lineFeed names (by omega) visible)) ?_ shorter
    -- The scalar has taken the blanks before the next line's word, too.
    have skipped : skipSpace false true false position.nextLine (List.replicate blanks ' ' ++ d :: text) =
        (true, ⟨position.line + 1, blanks⟩, d :: text) := by
      rw [skipSpace_blanks, skipSpace_solid solid]
      simp [Position.nextLine, Position.forward]
    rw [settled_inBlock (skipSpace_solid solid text), settled_inBlock skipped]

theorem reaches_quoted (held : ∀ c ∈ word, isHeld c = true) (within : (column : Int) ≤ position.column) :
    ∃ place, Reaches (inBlock ('"' :: (word ++ '"' :: rest)) position column outer false tokens)
      (inBlock rest place column outer false (.scalar (String.ofList word) false :: tokens)) := by
  have stays : (inBlock ('"' :: (word ++ '"' :: rest)) position column outer false tokens).settled =
      inBlock ('"' :: (word ++ '"' :: rest)) position column outer false tokens :=
    settled_of_solid rfl (by decide) (.inr within)
  refine ⟨(position.forward 1).forward (word.length + 1), .of_fetch? (by rw [stays]; rfl) ?_ rfl ?_⟩
  · rw [stays, fetch?_quote rfl, quotedScalar?, noteCandidate?_value]
    have reads : Scalar.quoted? '"' (position.forward 1) (word ++ '"' :: rest) =
        some ⟨String.ofList word, (position.forward 1).forward (word.length + 1), rest, false⟩ :=
      Scalar.quoted?_held held (Nat.succ_pos _)
    simp only [Option.bind_eq_bind, Option.bind_some, inBlock, List.drop_succ_cons, List.drop_zero, reads]
    rfl
  · simp [inBlock]
    omega

theorem reaches_open {token : Token} (solid : isSolid c = true) (within : (column : Int) ≤ position.column)
    (opens : ∀ lexer : Lexer, lexer.rest = c :: rest → lexer.fetch? c rest = lexer.openFlow? token) :
    Reaches (inBlock (c :: rest) position column outer false tokens)
      (beforeItem rest (position.forward 1) column outer (token :: tokens)) := by
  have stays : (inBlock (c :: rest) position column outer false tokens).settled =
      inBlock (c :: rest) position column outer false tokens := settled_of_solid rfl solid (.inr within)
  refine .of_fetch? (by rw [stays]; rfl) ?_ rfl (Nat.lt_succ_self _)
  rw [stays, opens _ rfl]
  rfl

theorem behindItem_beforeItem : BehindItem (beforeItem rest position indent outer tokens) rest indent outer tokens :=
  ⟨rfl, rfl, rfl, rfl, rfl, rfl⟩

theorem BehindItem.settled (behind : BehindItem lexer (c :: rest) indent outer tokens) (solid : isSolid c = true) :
    lexer.settled = lexer :=
  settled_of_solid behind.rest solid (.inl (by simp [inFlow, behind.nested]))

theorem BehindItem.reaches_close {token : Token} (behind : BehindItem lexer (c :: rest) indent outer tokens)
    (solid : isSolid c = true)
    (closes : ∀ lexer : Lexer, lexer.rest = c :: rest → lexer.fetch? c rest = lexer.closeFlow? token) :
    ∃ place, Reaches lexer (inBlock rest place indent outer false (token :: tokens)) := by
  have stays := behind.settled solid
  obtain ⟨here, rfl, rfl, free, nested, rfl⟩ := behind
  refine ⟨lexer.position.forward 1, .of_fetch? (by rw [stays, here]) ?_ rfl (by simp [inBlock, here])⟩
  rw [stays, closes _ here, closeFlow?, dropCandidate?_of_free free]
  simp only [Option.bind_eq_bind, Option.bind_some, nested, skip, push, here, List.drop_succ_cons, List.drop_zero]
  rfl

/-- After a comma and a blank there is another item. -/
theorem BehindItem.reaches_next (behind : BehindItem lexer (',' :: ' ' :: rest) indent outer tokens) :
    ∃ place, Reaches lexer (beforeItem rest place indent outer (.flowEntry :: tokens)) := by
  have stays := behind.settled (by decide)
  obtain ⟨here, rfl, rfl, free, nested, rfl⟩ := behind
  have fetched : lexer.fetch? ',' (' ' :: rest) =
      some (beforeItem (' ' :: rest) (lexer.position.forward 1) lexer.indent lexer.outerIndents
        (.flowEntry :: lexer.tokens)) := by
    rw [fetch?_comma here, comma?, dropCandidate?_of_free free]
    simp only [Option.bind_eq_bind, Option.bind_some, nested, skip, push, here, List.drop_succ_cons, List.drop_zero]
    rfl
  refine ⟨(lexer.position.forward 1).forward 1,
    .of_fetch? (by rw [stays, here]) (by rw [stays, fetched]) (settled_blank rfl) ?_⟩
  simp only [beforeItem, here, List.length_cons]
  omega

theorem reaches_item (isWord : IsWord word) (limit : Scalar.isFlowIndicator c = true) :
    ∃ later, BehindItem later (c :: rest) indent outer (.scalar (String.ofList word) true :: tokens) ∧
      Reaches (beforeItem (word ++ c :: rest) position indent outer tokens) later := by
  obtain ⟨⟨first, more, rfl, alphanum⟩, names⟩ := isWord
  have stays : (beforeItem (first :: more ++ c :: rest) position indent outer tokens).settled =
      beforeItem (first :: more ++ c :: rest) position indent outer tokens :=
    settled_of_solid rfl (isSolid_of_isAlphanum alphanum) (.inl rfl)
  have limits : isSpace c = false ∧ c ≠ ':' := by
    simp only [Scalar.isFlowIndicator, Bool.or_eq_true, beq_iff_eq] at limit
    rcases limit with (((rfl | rfl) | rfl) | rfl) | rfl <;> decide
  have reads : Scalar.plain? true (indent + 1) position (first :: more ++ c :: rest) =
      some ⟨String.ofList (first :: more), position.forward (first :: more).length, c :: rest, false⟩ :=
    Scalar.plain?_before names limits.1 (by simp [Scalar.endsBefore, limit]) (by simp [Scalar.isStrayColon, limits.2])
  let candidate : KeyCandidate := ⟨position, first :: more ++ c :: rest, tokens.length, false⟩
  refine ⟨⟨c :: rest, position.forward (first :: more).length, indent, outer, some candidate, [none], false,
    .scalar (String.ofList (first :: more)) true :: tokens⟩, ⟨rfl, rfl, rfl, rfl, rfl, rfl⟩,
    .of_fetch? (by rw [stays]; rfl) ?_ rfl ?_⟩
  · have noted : (beforeItem (first :: more ++ c :: rest) position indent outer tokens).noteCandidate? =
        some { beforeItem (first :: more ++ c :: rest) position indent outer tokens with
          candidate := some candidate } := rfl
    rw [stays, fetch?_of_isAlphanum rfl alphanum]
    exact plainScalar?_of_plain? noted reads
  · simp only [beforeItem, List.length_append, List.length_cons]
    omega

end Values

end Relink.Yaml.Lexer
