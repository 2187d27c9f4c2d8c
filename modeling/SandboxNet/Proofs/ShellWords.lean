import SandboxNet.Image

/-!
How a shell reads a command line: words, and the blanks and operators that end them. A quoted text
is read as the text itself, whatever is in it, so a directory that is put into a template becomes a
word or a part of one, and nothing in it is read as anything else. The reader knows the quotes, the
backslash and comments. It does not look into substitutions and here-documents.
-/
namespace SandboxNet.Shell

/-- Where the reader stands: outside quotes, after a backslash, inside quotes, or in a comment. -/
inductive Mode where
  | bare
  | escaped
  | single
  | double
  | doubleEscaped
  | comment
deriving DecidableEq

/-- A character of a word. A literal one stands for itself; a bare one may still be interpreted. -/
inductive Mark where
  | literal (c : Char)
  | bare (c : Char)

inductive Token where
  | word (marks : List Mark)
  | stop (c : Char)

def Token.stop? : Token → Option Char
  | .word _ => none
  | .stop c => some c

/-- What ends a word unless it is quoted: the blanks, the end of a line and the operators. -/
def stops : List Char :=
  [' ', '\t', '\n', '|', '&', ';', '<', '>', '(', ')']

/-- What is special inside double quotes. A backslash there escapes nothing else. -/
def escapable : List Char :=
  ['$', '\x60', '"', '\\']

/-- What a character does: it adds to the word, which may begin with it, or it ends the word, or it
does neither. -/
inductive Move where
  | skip (mode : Mode)
  | add (marks : List Mark) (mode : Mode)
  | stop

/-- What a character does where the reader stands. A backslash takes away the end of a line, and a
number sign begins a comment if no word has begun. -/
def move (begun : Bool) (c : Char) : Mode → Move
  | .bare =>
    if c = '\'' then .add [] .single
    else if c = '"' then .add [] .double
    else if c = '\\' then .skip .escaped
    else if c ∈ stops then .stop
    else if c = '#' ∧ begun = false then .skip .comment
    else .add [.bare c] .bare
  | .escaped => if c = '\n' then .skip .bare else .add [.literal c] .bare
  | .single => if c = '\'' then .skip .bare else .add [.literal c] .single
  | .double =>
    if c = '"' then .skip .bare
    else if c = '\\' then .skip .doubleEscaped
    else if c ∈ escapable then .add [.bare c] .double
    else .add [.literal c] .double
  | .doubleEscaped =>
    if c = '\n' then .skip .double
    else if c ∈ escapable then .add [.literal c] .double
    else .add [.literal '\\', .literal c] .double
  | .comment => if c = '\n' then .stop else .skip .comment

/-- What has been read, the word being read if one has begun, and where the reader stands. -/
structure Reading where
  tokens : List Token
  word : Option (List Mark)
  mode : Mode

namespace Reading

def start : Reading := ⟨[], none, .bare⟩

/-- Everything read, with the word that the end of the text ends. -/
def finished (r : Reading) : List Token :=
  r.tokens ++ (r.word.map Token.word).toList

/-- Adds to the word. Without anything to add, there is a word nonetheless. -/
def add (r : Reading) (marks : List Mark) : Reading :=
  { r with word := some (r.word.getD [] ++ marks) }

def endWord (r : Reading) (c : Char) : Reading :=
  ⟨r.finished ++ [.stop c], none, .bare⟩

def step (r : Reading) (c : Char) : Reading :=
  match move r.word.isSome c r.mode with
  | .skip mode => { r with mode := mode }
  | .add marks mode => { r.add marks with mode := mode }
  | .stop => r.endWord c

def read (r : Reading) (cs : List Char) : Reading :=
  cs.foldl step r

end Reading

/-- The words of a command line and what ends them. -/
def tokens (cs : List Char) : List Token :=
  (Reading.start.read cs).finished

/-- What stands in a template for the directory. -/
def hole : List Char :=
  ['\x7b', 'd', 'i', 'r', '\x7d']

/-- Whether the reader of a template comes to no hole inside quotes or in a comment. -/
def Unquoted (template : List Char) : Prop :=
  ∀ before after, template = before ++ hole ++ after → (Reading.start.read before).mode = .bare

theorem unquoted_iff {template : List Char} : Unquoted template ↔
    ∀ n < template.length, hole <+: template.drop n →
      (Reading.start.read (template.take n)).mode = .bare := by
  constructor
  · rintro ht n - ⟨after, hafter⟩
    exact ht (template.take n) after (by rw [List.append_assoc, hafter, List.take_append_drop])
  · rintro hall before after rfl
    have hn := hall before.length (by simp [hole])
    rw [List.append_assoc, List.drop_left, List.take_left] at hn
    exact hn (List.prefix_append hole after)

instance (template : List Char) : Decidable (Unquoted template) :=
  decidable_of_iff _ unquoted_iff.symm

namespace Reading

variable {r r' : Reading} {c : Char} {cs : List Char} {marks : List Mark}

theorem read_cons (r : Reading) (c : Char) (cs : List Char) :
    r.read (c :: cs) = (r.step c).read cs := rfl

theorem read_append (r : Reading) (cs rest : List Char) :
    r.read (cs ++ rest) = (r.read cs).read rest :=
  List.foldl_append

theorem add_add (r : Reading) (first second : List Mark) :
    (r.add first).add second = r.add (first ++ second) := by
  simp [add]

/-- One character of a quoted text, also a quote, is read as itself. -/
theorem read_quoteChar (hr : r.mode = .single) (c : Char) :
    r.read (quoteChar c) = r.add [.literal c] := by
  obtain ⟨tokens, word, mode⟩ := r
  cases hr
  by_cases hc : c = '\''
  · -- the quotes are closed, the quote is escaped, and the quotes are opened again
    simp [hc, quoteChar, read, step, move, add]
  · simp [hc, quoteChar, read, step, move, add]

theorem read_quoted (hr : r.mode = .single) (marks : List Mark) (cs : List Char) :
    (r.add marks).read (cs.flatMap quoteChar) = r.add (marks ++ cs.map .literal) := by
  induction cs generalizing marks with
  | nil => simp [read]
  | cons c rest ih =>
    rw [List.flatMap_cons, read_append, read_quoteChar (r := r.add marks) hr, add_add, ih,
      List.append_assoc]
    rfl

/-- A quoted text outside quotes is read as the text itself, and the reader is outside again. -/
theorem read_quote (hr : r.mode = .bare) (cs : List Char) :
    r.read (quote cs) = r.add (cs.map .literal) := by
  obtain ⟨tokens, word, mode⟩ := r
  cases hr
  have hopen : (⟨tokens, word, .bare⟩ : Reading).step '\'' = add ⟨tokens, word, .single⟩ [] := by
    simp [step, move, add]
  rw [quote, read_cons, hopen, read_append, read_quoted rfl, read_cons]
  simp [step, move, add, read]

theorem tokens_prefix_step (r : Reading) (c : Char) : r.tokens <+: (r.step c).tokens := by
  rw [step]
  cases move r.word.isSome c r.mode with
  | skip mode => exact List.prefix_rfl
  | add marks mode => exact List.prefix_rfl
  | stop => simp [endWord, finished]

theorem tokens_prefix_read (r : Reading) (cs : List Char) : r.tokens <+: (r.read cs).tokens := by
  induction cs generalizing r with
  | nil => exact List.prefix_rfl
  | cons c rest ih => exact (tokens_prefix_step r c).trans (ih _)

/-- What leaves the reader in the same word has ended no word on the way. -/
theorem tokens_read_front {front : List Char} (hfront : front <+: cs)
    (hcs : (r.read cs).tokens = r.tokens) : (r.read front).tokens = r.tokens := by
  obtain ⟨back, rfl⟩ := hfront
  rw [read_append] at hcs
  have hlater := tokens_prefix_read (r.read front) back
  rw [hcs] at hlater
  exact hlater.eq_of_length_le (tokens_prefix_read r front).length_le

theorem finished_endWord (hw : r.word = some marks) (c : Char) (cs : List Char) :
    ∃ more, ((r.endWord c).read cs).finished = r.tokens ++ .word marks :: more := by
  obtain ⟨later, hlater⟩ := tokens_prefix_read (r.endWord c) cs
  refine ⟨.stop c :: (later ++ (((r.endWord c).read cs).word.map Token.word).toList), ?_⟩
  rw [finished, ← hlater]
  simp [endWord, finished, hw]

/-- A word that has begun is only added to, up to its end. -/
theorem finished_read (hw : r.word = some marks) (cs : List Char) :
    ∃ post more, (r.read cs).finished = r.tokens ++ .word (marks ++ post) :: more := by
  induction cs generalizing r marks with
  | nil => exact ⟨[], [], by simp [read, finished, hw]⟩
  | cons c rest ih =>
    rw [read_cons, step]
    cases move r.word.isSome c r.mode with
    | skip mode => exact ih hw
    | add added mode =>
      obtain ⟨post, more, hread⟩ := ih (r := { r.add added with mode := mode }) rfl
      exact ⟨added ++ post, more, by simpa [add, hw] using hread⟩
    | stop =>
      obtain ⟨more, hread⟩ := finished_endWord hw c rest
      exact ⟨[], more, by simpa using hread⟩

theorem step_stop (hr : r.mode = .bare) (hc : c ∈ stops) : r.step c = r.endWord c := by
  have hmove : move r.word.isSome c .bare = .stop := by
    simp only [stops, List.mem_cons, List.not_mem_nil, or_false] at hc
    rcases hc with rfl | rfl | rfl | rfl | rfl | rfl | rfl | rfl | rfl | rfl <;> rfl
  rw [step, hr, hmove]

theorem finished_read_stop (hr : r.mode = .bare) (hw : r.word = some marks)
    (hcs : ∀ c, cs.head? = some c → c ∈ stops) :
    ∃ more, (r.read cs).finished = r.tokens ++ .word marks :: more := by
  cases cs with
  | nil => exact ⟨[], by simp [read, finished, hw]⟩
  | cons c rest =>
    rw [read_cons, step_stop hr (hcs c rfl)]
    exact finished_endWord hw c rest

/-- Two readers of which one may have read other words than the other, but no other number of them
and nothing else between them. -/
structure InStep (r r' : Reading) : Prop where
  tokens : r.tokens.map Token.stop? = r'.tokens.map Token.stop?
  word : r.word.isSome = r'.word.isSome
  mode : r.mode = r'.mode

theorem InStep.finished (h : InStep r r') :
    r.finished.map Token.stop? = r'.finished.map Token.stop? := by
  have hword : (r.word.map Token.word).toList.map Token.stop? =
      (r'.word.map Token.word).toList.map Token.stop? := by
    have hsome := h.word
    cases hr : r.word <;> cases hr' : r'.word <;> simp_all [Token.stop?]
  rw [Reading.finished, Reading.finished, List.map_append, List.map_append, h.tokens, hword]

theorem InStep.step (h : InStep r r') (c : Char) : InStep (r.step c) (r'.step c) := by
  rw [Reading.step, Reading.step, ← h.word, ← h.mode]
  cases move r.word.isSome c r.mode with
  | skip mode => exact ⟨h.tokens, h.word, rfl⟩
  | add marks mode => exact ⟨h.tokens, rfl, rfl⟩
  | stop => exact ⟨by simp [endWord, h.finished], rfl, rfl⟩

end Reading

section Fill

variable {word before after rest : List Char} {c : Char}

theorem fill_hole_append (word rest : List Char) :
    fill word (hole ++ rest) = word ++ fill word rest := by
  rw [hole]
  rfl

theorem fill_cons (hc : ¬ hole <+: c :: rest) : fill word (c :: rest) = c :: fill word rest := by
  rw [fill]
  rintro tail rfl rfl
  exact hc (List.prefix_append hole tail)

/-- A hole has its first character nowhere else, so none begins before another and ends in it. -/
theorem hole_prefix_of_append (hb : before ≠ []) (hh : hole <+: before ++ (hole ++ after)) :
    hole <+: before := by
  rcases before with _ | ⟨a, _ | ⟨b, _ | ⟨c, _ | ⟨d, _ | ⟨e, rest⟩⟩⟩⟩⟩
  · exact absurd rfl hb
  · simp [hole] at hh
  · simp [hole] at hh
  · simp [hole] at hh
  · simp [hole] at hh
  · simpa [hole] using hh

theorem fill_split (word before after : List Char) :
    fill word (before ++ hole ++ after) = fill word before ++ word ++ fill word after := by
  rw [List.append_assoc]
  fun_induction fill word before with
  | case1 rest ih =>
    rw [List.append_assoc, List.append_assoc, ← List.append_assoc (fill word rest), ← ih]
    exact fill_hole_append word (rest ++ (hole ++ after))
  | case2 c rest hne ih =>
    have hnot : ¬ hole <+: c :: (rest ++ (hole ++ after)) := by
      intro hh
      obtain ⟨tail, htail⟩ := hole_prefix_of_append (List.cons_ne_nil c rest) hh
      cases htail
      exact hne tail rfl rfl
    rw [List.cons_append, fill_cons hnot, ih]
    rfl
  | case3 => exact fill_hole_append word after

theorem head?_fill_stop (hafter : ∀ c, after.head? = some c → c ∈ stops) :
    ∀ c, (fill word after).head? = some c → c ∈ stops := by
  cases after with
  | nil => simp [fill]
  | cons c rest =>
    have hnot : ¬ hole <+: c :: rest := by
      rintro ⟨tail, htail⟩
      cases htail
      exact absurd (hafter '\x7b' rfl) (by decide)
    rw [fill_cons hnot]
    exact hafter

end Fill

namespace Reading

variable {r r' : Reading} {directory template : List Char}

/-- Outside quotes, the hole in the one text and whatever is added for it keep readers in step. -/
theorem inStep_hole (hr' : r'.mode = .bare) (h : InStep r r') (marks : List Mark) :
    InStep (r.add marks) (r'.read hole) := by
  have hread : r'.read hole = r'.add (hole.map .bare) := by
    obtain ⟨tokens, word, mode⟩ := r'
    cases hr'
    simp [hole, read, step, move, stops, add]
  rw [hread]
  exact ⟨h.tokens, rfl, h.mode⟩

/-- The induction follows the filling: hole by hole, and between holes character by character. -/
theorem inStep_fill (h : InStep r r')
    (hholes : ∀ before after, template = before ++ hole ++ after → (r'.read before).mode = .bare) :
    InStep (r.read (fill (quote directory) template)) (r'.read template) := by
  fun_induction fill (quote directory) template generalizing r r' with
  | case1 rest ih =>
    have hr' : r'.mode = .bare := hholes [] rest rfl
    have hr : r.mode = .bare := h.mode.trans hr'
    rw [read_append, read_quote hr]
    have hrest : ∀ before after, rest = before ++ hole ++ after →
        ((r'.read hole).read before).mode = .bare := by
      rintro before after rfl
      rw [← read_append]
      exact hholes (hole ++ before) after (by simp [hole])
    exact ih (inStep_hole hr' h _) hrest
  | case2 c rest hne ih =>
    refine ih (h.step c) fun before after hrest => ?_
    exact hholes (c :: before) after (by simp [hrest])
  | case3 => exact h

end Reading

/-- The reader of the command for a directory, come to the end of the first part of the template. -/
def readUpTo (directory : String) (before : List Char) : Reading :=
  Reading.start.read (fill (quote directory.toList) before)

section Command

variable {template directory : String} {before after : List Char}

theorem readUpTo_inStep (ht : Unquoted template.toList)
    (hsplit : template.toList = before ++ hole ++ after) :
    (readUpTo directory before).InStep (Reading.start.read before) := by
  refine Reading.inStep_fill ⟨rfl, rfl, rfl⟩ fun front back hbefore => ?_
  exact ht front (back ++ hole ++ after) (by simp [hsplit, hbefore])

theorem tokens_command (hsplit : template.toList = before ++ hole ++ after)
    (hr : (readUpTo directory before).mode = .bare) :
    tokens (command template directory).toList =
      (((readUpTo directory before).add (directory.toList.map .literal)).read
        (fill (quote directory.toList) after)).finished := by
  rw [tokens, command, String.toList_ofList, hsplit, fill_split, Reading.read_append,
    Reading.read_append, ← readUpTo, Reading.read_quote hr]

/-- Outside quotes a quoted text is read as the text itself, as a literal part of one word. In a
template without a quoted hole every hole is read so, and the command has as many words as the
template and the same between them. -/
theorem directory_read_as_written (template directory : String) :
    (∀ (r : Reading) (cs rest : List Char), r.mode = .bare →
      r.read (quote cs ++ rest) = (r.add (cs.map .literal)).read rest ∧
      (r.add (cs.map .literal)).mode = .bare ∧
      ∀ front, front <+: quote cs → (r.read front).tokens = r.tokens) ∧
    (∀ before after, template.toList = before ++ hole ++ after →
      (readUpTo directory before).mode = .bare →
      (∃ post more, tokens (command template directory).toList =
        (readUpTo directory before).tokens ++
          .word ((readUpTo directory before).word.getD [] ++ directory.toList.map .literal ++
            post) :: more) ∧
      ((readUpTo directory before).word = none → (∀ c, after.head? = some c → c ∈ stops) →
        ∃ more, tokens (command template directory).toList =
          (readUpTo directory before).tokens ++ .word (directory.toList.map .literal) :: more)) ∧
    (Unquoted template.toList →
      (∀ before after, template.toList = before ++ hole ++ after →
        (readUpTo directory before).mode = .bare ∧
        (readUpTo directory before).word.isSome = (Reading.start.read before).word.isSome) ∧
      (tokens (command template directory).toList).map Token.stop? =
        (tokens template.toList).map Token.stop?) := by
  refine ⟨fun r cs rest hr => ⟨?_, hr, fun front hfront => ?_⟩,
    fun before after hsplit hr => ⟨?_, fun hword hafter => ?_⟩,
    fun ht => ⟨fun before after hsplit => ?_, ?_⟩⟩
  · rw [Reading.read_append, Reading.read_quote hr]
  · exact Reading.tokens_read_front hfront (by rw [Reading.read_quote hr]; rfl)
  · rw [tokens_command hsplit hr]
    exact Reading.finished_read rfl _
  · rw [tokens_command hsplit hr]
    exact Reading.finished_read_stop hr (by simp [Reading.add, hword]) (head?_fill_stop hafter)
  · have hstep : (readUpTo directory before).InStep (Reading.start.read before) :=
      readUpTo_inStep ht hsplit
    exact ⟨hstep.mode.trans (ht before after hsplit), hstep.word⟩
  · rw [tokens, command, String.toList_ofList]
    exact (Reading.inStep_fill ⟨rfl, rfl, rfl⟩ ht).finished

/-- The directory has quotes and an operator in it, and there are quotes in the template. -/
theorem directory_read_as_written_hostile :
    let template := "mkdir -p \x7bdir\x7d && touch \"it's\" \x7bdir\x7d/ok # it's"
    let directory := "srv/it's'; rm -rf \\"
    let before := "mkdir -p ".toList
    (∀ front, front <+: quote directory.toList → (Reading.start.read front).tokens = []) ∧
      Unquoted template.toList ∧ (readUpTo directory before).mode = .bare ∧
      (∃ more, tokens (command template directory).toList =
        (readUpTo directory before).tokens ++ .word (directory.toList.map .literal) :: more) ∧
      (tokens (command template directory).toList).map Token.stop? =
        [none, some ' ', none, some ' ', none, some ' ', some '&', some '&', some ' ', none,
          some ' ', none, some ' ', none, some ' '] := by
  intro template directory before
  let after := " && touch \"it's\" \x7bdir\x7d/ok # it's".toList
  have ht : Unquoted template.toList := by decide +kernel
  have hsplit : template.toList = before ++ hole ++ after := by decide +kernel
  have hafter : after.head? = some ' ' := by decide +kernel
  obtain ⟨hquote, hplaced, hunquoted⟩ := directory_read_as_written template directory
  obtain ⟨hbare, hshape⟩ := hunquoted ht
  obtain ⟨hr, hbegun⟩ := hbare _ _ hsplit
  have hword : (readUpTo directory before).word = none := by
    rw [← Option.not_isSome_iff_eq_none, hbegun]
    decide +kernel
  refine ⟨(hquote .start _ [] rfl).2.2, ht, hr, (hplaced _ _ hsplit hr).2 hword fun c hc => ?_,
    hshape.trans (by decide +kernel)⟩
  cases hafter.symm.trans hc
  decide

end Command

end SandboxNet.Shell
