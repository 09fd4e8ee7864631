import LiveEvents.Proofs.PrintedJson
import LiveEvents.Sql.Statement

/-!
# What is read in the text of a statement

The text of a statement is cut into words and marks, and from these is read which columns it writes
or selects, in which table, and by which terms over its parameters and the old row. Whatever the
columns of a statement are, its text says what it was made from.
-/

namespace LiveEvents.Sql

/-- A value in a statement: a parameter, a column of the old row, or the first of two that is not
null. The type to which a value is cast is left out. -/
inductive Term where
  | param (n : ℕ)
  | column (name : String)
  | first (a b : Term)
  deriving DecidableEq, Repr

structure Insertion where
  table : String
  values : List (String × Term)
  deriving DecidableEq, Repr

/-- What an update changes, in the rows that have the values of the keys. -/
structure Change where
  table : String
  changes : List (String × Term)
  keys : List (String × Term)
  deriving DecidableEq, Repr

/-- Which columns a selection shows, each under a name of its own. -/
structure Selection where
  table : String
  columns : List (String × String)
  keys : List (String × Term)
  deriving DecidableEq, Repr

/-! ## Reading -/

def marks : List Char := ['(', ')', ',', '=', ':']

def closeWord (word : List Char) (rest : List String) : List String :=
  if word = [] then rest else String.ofList word :: rest

/-- The words and marks of a text that goes on with a word. -/
def tokensFrom (word : List Char) : List Char → List String
  | [] => closeWord word []
  | c :: cs =>
    if c = ' ' then closeWord word (tokensFrom [] cs)
    else if c ∈ marks then closeWord word (String.ofList [c] :: tokensFrom [] cs)
    else tokensFrom (word ++ [c]) cs

def tokens (text : String) : List String := tokensFrom [] text.toList

/-- The parts of a list that is closed by this token, cut at the commas that stand in no
parentheses, and what follows the list. -/
def listed (close : String) (depth : ℕ) (part : List String) :
    List String → List (List String) × List String
  | [] => ([part], [])
  | t :: rest =>
    if depth = 0 ∧ t = close then ([part], rest)
    else if depth = 0 ∧ t = "," then
      let (parts, after) := listed close 0 [] rest
      (part :: parts, after)
    else
      let depth := if t = "(" then depth + 1 else if t = ")" then depth - 1 else depth
      listed close depth (part ++ [t]) rest

/-- A numbered parameter, or else a column. -/
def atom (word : String) : Term :=
  match word.toList with
  | '$' :: digits => .param (Text.decimalValue digits)
  | _ => .column word

def term? : List String → Option Term
  | [word] => some (atom word)
  | [word, ":", ":", _] => some (atom word)
  | ["COALESCE", "(", a, ",", b, ")"] => some (.first (atom a) (atom b))
  | _ => none

def name? : List String → Option String
  | [name] => some name
  | _ => none

def assignment? : List String → Option (String × Term)
  | name :: "=" :: rest => (term? rest).map (name, ·)
  | _ => none

/-- A column that is selected, and the name that it gets. -/
def selected? : List String → Option (String × String)
  | [name] => some (name, name)
  | [name, ":", ":", _, "AS", shown] => some (shown, name)
  | _ => none

def keys? (condition : List String) : Option (List (String × Term)) :=
  (condition.splitOn "AND").mapM assignment?

def insertion? (text : String) : Option Insertion :=
  match tokens text with
  | "INSERT" :: "INTO" :: table :: "(" :: rest =>
    let (columns, rest) := listed ")" 0 [] rest
    match rest with
    | "VALUES" :: "(" :: rest => do
      let names ← columns.mapM name?
      let terms ← (listed ")" 0 [] rest).1.mapM term?
      if names.length = terms.length then some { table, values := names.zip terms } else none
    | _ => none
  | _ => none

def change? (text : String) : Option Change :=
  match tokens text with
  | "UPDATE" :: table :: "SET" :: rest => do
    let (parts, condition) := listed "WHERE" 0 [] rest
    return { table, changes := ← parts.mapM assignment?, keys := ← keys? condition }
  | _ => none

def selection? (text : String) : Option Selection :=
  match tokens text with
  | "SELECT" :: rest =>
    let (parts, rest) := listed "FROM" 0 [] rest
    match rest with
    | table :: "WHERE" :: condition => do
      return { table, columns := ← parts.mapM selected?, keys := ← keys? condition }
    | _ => none
  | _ => none

/-! ## Texts as words and marks -/

/-- A word that stands for itself. -/
structure IsWord (s : String) : Prop where
  nonempty : s.toList ≠ []
  plain : ∀ c ∈ s.toList, c ≠ ' ' ∧ c ∉ marks

def Breaks : List Char → Prop
  | [] => True
  | c :: _ => c = ' ' ∨ c ∈ marks

/-- This text has these tokens, wherever it stands before a break. -/
def Reads (cs : List Char) (ts : List String) : Prop :=
  ∀ rest, Breaks rest → tokensFrom [] (cs ++ rest) = ts ++ tokensFrom [] rest

/-- This text has these tokens, whatever comes next. -/
def Opens (cs : List Char) (ts : List String) : Prop :=
  ∀ rest, tokensFrom [] (cs ++ rest) = ts ++ tokensFrom [] rest

theorem tokensFrom_plain {cs : List Char} (h : ∀ c ∈ cs, c ≠ ' ' ∧ c ∉ marks)
    (word rest : List Char) : tokensFrom word (cs ++ rest) = tokensFrom (word ++ cs) rest := by
  induction cs generalizing word with
  | nil => simp
  | cons c cs ih =>
    obtain ⟨⟨hspace, hmark⟩, hcs⟩ := List.forall_mem_cons.mp h
    rw [List.cons_append, tokensFrom, if_neg hspace, if_neg hmark, ih hcs, List.append_assoc,
      List.singleton_append]

theorem tokensFrom_break {word : List Char} (hword : word ≠ []) {rest : List Char}
    (hrest : Breaks rest) : tokensFrom word rest = String.ofList word :: tokensFrom [] rest := by
  cases rest with
  | nil => simp [tokensFrom, closeWord, hword]
  | cons c cs =>
    rcases hrest with rfl | hmark
    · simp [tokensFrom, closeWord, hword]
    · by_cases hspace : c = ' '
      · simp [tokensFrom, closeWord, hword, hspace]
      · simp [tokensFrom, closeWord, hword, hspace, hmark]

theorem IsWord.reads {s : String} (h : IsWord s) : Reads s.toList [s] := by
  intro rest hrest
  rw [tokensFrom_plain h.plain, List.nil_append, tokensFrom_break h.nonempty hrest,
    String.ofList_toList]
  rfl

theorem toList_place (n : ℕ) : (place n).toList = '$' :: Text.decimal n := by
  rw [place, String.toList_append, Text.toList_toString_nat]
  rfl

theorem isWord_place (n : ℕ) : IsWord (place n) := by
  refine ⟨by simp [toList_place], ?_⟩
  rw [toList_place]
  intro c hc
  rcases List.mem_cons.mp hc with rfl | hc
  · decide
  · have hdigit := (Json.isWhole_decimal n).isDigit.2 c hc
    refine ⟨?_, ?_⟩
    · rintro rfl
      exact absurd hdigit (by decide)
    · intro hmark
      have hnone : (marks.all fun d => !d.isDigit) = true := by decide
      have hnot := List.all_eq_true.mp hnone c hmark
      simp [hdigit] at hnot

/-- Parts that are read one by one are read with this separator between them. -/
theorem reads_intercalate {α : Type} (separator t : String) (hopens : Opens separator.toList [t])
    (hbreaks : ∀ rest, Breaks (separator.toList ++ rest)) {text : α → String}
    {read : α → List String} {as : List α} (hne : as ≠ [])
    (h : ∀ a ∈ as, Reads (text a).toList (read a)) :
    Reads (separator.intercalate (as.map text)).toList ([t].intercalate (as.map read)) := by
  induction as with
  | nil => exact absurd rfl hne
  | cons a as ih =>
    obtain ⟨ha, has⟩ := List.forall_mem_cons.mp h
    cases as with
    | nil => simpa using ha
    | cons b as =>
      have hrest := ih (List.cons_ne_nil b as) has
      intro rest hbreak
      simp only [List.map_cons, String.intercalate_cons_cons, List.intercalate_cons_cons,
        String.toList_append, List.append_assoc] at hrest ⊢
      rw [ha _ (hbreaks _), hopens, hrest rest hbreak]

theorem reads_commas {α : Type} {text : α → String} {read : α → List String} {as : List α}
    (hne : as ≠ []) (h : ∀ a ∈ as, Reads (text a).toList (read a)) :
    Reads (commas (as.map text)).toList ([","].intercalate (as.map read)) :=
  reads_intercalate ", " "," (fun _ => rfl) (fun _ => Or.inr (by decide)) hne h

/-- The tokens of a value. -/
def Source.tokens (column : String) : Source → List String
  | bind n => [place n]
  | numeric n => [place n, ":", ":", "numeric"]
  | orOld n => ["COALESCE", "(", place n, ",", column, ")"]

def Source.term (column : String) : Source → Term
  | bind n | numeric n => .param n
  | orOld n => .first (.param n) (.column column)

def Column.tokens : Column → List String
  | plain name => [name]
  | asText name => [name, ":", ":", "text", "AS", name]

def Column.name : Column → String
  | plain name | asText name => name

theorem reads_source {column : String} (h : IsWord column) (source : Source) :
    Reads (source.text column).toList (source.tokens column) := by
  intro rest hrest
  cases source with
  | bind n => exact (isWord_place n).reads rest hrest
  | numeric n =>
    have htext : ((Source.numeric n).text column).toList =
        (place n).toList ++ (':' :: ':' :: "numeric".toList) := by
      simp [Source.text]
    have hcolon : Breaks (':' :: ':' :: "numeric".toList ++ rest) := Or.inr (by decide)
    rw [htext, List.append_assoc, (isWord_place n).reads _ hcolon]
    change place n :: ":" :: ":" :: tokensFrom ['n', 'u', 'm', 'e', 'r', 'i', 'c'] rest = _
    rw [tokensFrom_break (by decide) hrest]
    rfl
  | orOld n =>
    have htext : ((Source.orOld n).text column).toList =
        "COALESCE(".toList ++ ((place n).toList ++ (',' :: ' ' :: (column.toList ++ [')']))) := by
      simp [Source.text]
    have hcomma : Breaks (',' :: ' ' :: (column.toList ++ [')']) ++ rest) := Or.inr (by decide)
    have hparen : Breaks ([')'] ++ rest) := Or.inr (by decide)
    rw [htext, List.append_assoc]
    change "COALESCE" :: "(" :: tokensFrom [] (_ ++ rest) = _
    rw [List.append_assoc, (isWord_place n).reads _ hcomma]
    change "COALESCE" :: "(" :: place n :: "," :: tokensFrom [] (_ ++ _ ++ rest) = _
    rw [List.append_assoc, h.reads _ hparen]
    rfl

theorem reads_column {column : Column} (h : IsWord column.name) :
    Reads column.text.toList column.tokens := by
  intro rest hrest
  cases column with
  | plain name => exact h.reads rest hrest
  | asText name =>
    have hname : IsWord name := h
    have htext : (Column.asText name).text.toList =
        name.toList ++ (':' :: ':' :: ("text AS ".toList ++ name.toList)) := by
      simp [Column.text]
    have hcolon : Breaks (':' :: ':' :: ("text AS ".toList ++ name.toList) ++ rest) :=
      Or.inr (by decide)
    rw [htext, List.append_assoc, hname.reads _ hcolon]
    change name :: ":" :: ":" :: "text" :: "AS" :: tokensFrom [] (name.toList ++ rest) = _
    rw [hname.reads _ hrest]
    rfl

/-! ## Lists of parts -/

/-- A part of a list, which neither ends there nor has a comma outside of parentheses. -/
def Whole (close : String) (ts : List String) : Prop :=
  ∀ part rest, listed close 0 part (ts ++ rest) = listed close 0 (part ++ ts) rest

def punctuation : List String := ["(", ")", ","]

theorem whole_token {close t : String} (ht : t ∉ punctuation) (hclose : t ≠ close) :
    Whole close [t] := by
  intro part rest
  simp only [punctuation, List.mem_cons, List.not_mem_nil, or_false, not_or] at ht
  simp [listed, ht, hclose]

theorem Whole.append {close : String} {ts us : List String} (ht : Whole close ts)
    (hu : Whole close us) : Whole close (ts ++ us) := by
  intro part rest
  rw [List.append_assoc, ht, hu, List.append_assoc]

theorem whole_call {close f a b : String} (hf : f ∉ punctuation) (hclose : f ≠ close)
    (hparen : close ≠ "(") (ha : a ∉ punctuation) (hb : b ∉ punctuation) :
    Whole close [f, "(", a, ",", b, ")"] := by
  intro part rest
  simp only [punctuation, List.mem_cons, List.not_mem_nil, or_false, not_or] at hf ha hb
  simp [listed, hf, hclose, hparen.symm, ha, hb]

/-- A list is cut into its parts. -/
theorem listed_map {α : Type} (read : α → List String) {close : String} (hcomma : close ≠ ",")
    {as : List α} (hne : as ≠ []) (h : ∀ a ∈ as, Whole close (read a)) (rest : List String) :
    listed close 0 [] ([","].intercalate (as.map read) ++ close :: rest) =
      (as.map read, rest) := by
  induction as with
  | nil => exact absurd rfl hne
  | cons a as ih =>
    obtain ⟨ha, has⟩ := List.forall_mem_cons.mp h
    cases as with
    | nil => simp [ha [] (close :: rest), listed]
    | cons b as =>
      rw [List.map_cons, List.map_cons, List.intercalate_cons_cons, List.append_assoc,
        List.append_assoc, ha]
      have hrest := ih (List.cons_ne_nil b as) has
      rw [List.map_cons] at hrest
      simp [listed, hcomma.symm, hrest]

/-! ## Names and values -/

def closers : List String := [")", "WHERE", "FROM", "AND"]

/-- A word that can be the name of a table or of a column. -/
structure IsName (s : String) : Prop extends IsWord s where
  noCloser : s ∉ closers
  noParam : s.toList.head? ≠ some '$'

instance (s : String) : Decidable (IsName s) :=
  decidable_of_iff (s.toList ≠ [] ∧ s.toList.all (fun c => c ≠ ' ' ∧ c ∉ marks) = true ∧
      s ∉ closers ∧ s.toList.head? ≠ some '$') <| by
    simp only [List.all_eq_true, decide_eq_true_eq]
    exact ⟨fun ⟨hne, hplain, hcloser, hparam⟩ => ⟨⟨hne, hplain⟩, hcloser, hparam⟩,
      fun h => ⟨h.nonempty, h.plain, h.noCloser, h.noParam⟩⟩

theorem IsWord.not_mem_punctuation {s : String} (h : IsWord s) : s ∉ punctuation := by
  intro hmem
  have hmarks : ∀ t ∈ punctuation, t.toList.any (· ∈ marks) = true := by decide
  obtain ⟨c, hc, hmark⟩ := List.any_eq_true.mp (hmarks s hmem)
  exact (h.plain c hc).2 (of_decide_eq_true hmark)

theorem place_not_mem_closers (n : ℕ) : place n ∉ closers := by
  intro hmem
  have hheads : ∀ t ∈ closers, t.toList.head? ≠ some '$' := by decide
  exact hheads _ hmem (by rw [toList_place]; rfl)

theorem atom_place (n : ℕ) : atom (place n) = .param n := by
  unfold atom
  rw [toList_place]
  simp only [Json.decimalValue_decimal]

theorem IsName.atom {s : String} (h : IsName s) : atom s = .column s := by
  unfold Sql.atom
  split
  · next digits hdigits => exact absurd (congrArg List.head? hdigits) h.noParam
  · rfl

theorem term?_source {column : String} (h : IsName column) (source : Source) :
    term? (source.tokens column) = some (source.term column) := by
  cases source <;> simp [Source.tokens, Source.term, term?, atom_place, h.atom]

section Whole

variable {close : String} (hclose : close ∈ closers)

include hclose

theorem whole_of_not_mem {t : String} (ht : t ∉ punctuation) (hcloser : t ∉ closers) :
    Whole close [t] :=
  whole_token ht fun h => hcloser (h ▸ hclose)

theorem IsName.whole {s : String} (h : IsName s) : Whole close [s] :=
  whole_of_not_mem hclose h.not_mem_punctuation h.noCloser

theorem whole_source {column : String} (h : IsName column) (source : Source) :
    Whole close (source.tokens column) := by
  have hplace : ∀ n, Whole close [place n] := fun n =>
    whole_of_not_mem hclose (isWord_place n).not_mem_punctuation (place_not_mem_closers n)
  have hcolon : Whole close [":"] := whole_of_not_mem hclose (by decide) (by decide)
  have hcast : Whole close ["numeric"] := whole_of_not_mem hclose (by decide) (by decide)
  cases source with
  | bind n => exact hplace n
  | numeric n => exact (hplace n).append (hcolon.append (hcolon.append hcast))
  | orOld n =>
    have hparen : close ≠ "(" := fun h => absurd (h ▸ hclose) (by decide)
    have hname : "COALESCE" ≠ close := fun h => absurd (h.symm ▸ hclose) (by decide)
    exact whole_call (by decide) hname hparen (isWord_place n).not_mem_punctuation
      h.not_mem_punctuation

theorem whole_column {column : Column} (h : IsName column.name) :
    Whole close column.tokens := by
  have hcolon : Whole close [":"] := whole_of_not_mem hclose (by decide) (by decide)
  have hcast : Whole close ["text"] := whole_of_not_mem hclose (by decide) (by decide)
  have has : Whole close ["AS"] := whole_of_not_mem hclose (by decide) (by decide)
  cases column with
  | plain name => exact h.whole hclose
  | asText name =>
    have hname := h.whole hclose
    exact hname.append (hcolon.append (hcolon.append (hcast.append (has.append hname))))

end Whole

theorem mapM_map {α β γ : Type} {read : β → Option γ} {text : α → β} {result : α → γ}
    {as : List α} (h : ∀ a ∈ as, read (text a) = some (result a)) :
    (as.map text).mapM read = some (as.map result) := by
  induction as with
  | nil => rfl
  | cons a as ih =>
    obtain ⟨ha, has⟩ := List.forall_mem_cons.mp h
    simp [ha, ih has]

/-! ## Whole statements -/

structure Insert.Named (i : Insert) : Prop where
  table : IsName i.table
  columns : ∀ v ∈ i.values, IsName v.1
  nonempty : i.values ≠ []

def Insert.insertion (i : Insert) : Insertion where
  table := i.table
  values := i.values.map fun v => (v.1, v.2.term v.1)

theorem tokens_insert {i : Insert} (h : i.Named) : ∃ after, tokens i.text =
    "INSERT" :: "INTO" :: i.table :: "(" ::
      ([","].intercalate (i.values.map fun v => [v.1]) ++ ")" :: "VALUES" :: "(" ::
        ([","].intercalate (i.values.map fun v => v.2.tokens v.1) ++ ")" :: after)) := by
  have hcolumns : Reads (commas (i.values.map Prod.fst)).toList _ :=
    reads_commas h.nonempty fun v hv => (h.columns v hv).reads
  have hvalues : Reads (commas (i.values.map fun v => v.2.text v.1)).toList _ :=
    reads_commas h.nonempty fun v hv => reads_source (h.columns v hv).toIsWord v.2
  have hlist : Reads (if i.spaced then " " ++ commas (i.values.map Prod.fst) ++ " "
      else commas (i.values.map Prod.fst)).toList
        ([","].intercalate (i.values.map fun v => [v.1])) := by
    intro rest hrest
    cases i.spaced with
    | false => exact hcolumns rest hrest
    | true =>
      have htext : (" " ++ commas (i.values.map Prod.fst) ++ " ").toList ++ rest =
          ' ' :: ((commas (i.values.map Prod.fst)).toList ++ ' ' :: rest) := by simp
      rw [if_pos rfl, htext]
      exact hcolumns (' ' :: rest) (Or.inl rfl)
  have htext : i.text.toList = "INSERT INTO ".toList ++ (i.table.toList ++ (" (".toList ++
      ((if i.spaced then " " ++ commas (i.values.map Prod.fst) ++ " "
        else commas (i.values.map Prod.fst)).toList ++ (") VALUES (".toList ++
          ((commas (i.values.map fun v => v.2.text v.1)).toList ++
            (") ON CONFLICT (".toList ++ ((commas i.unique).toList ++
              ") DO NOTHING".toList))))))) := by
    unfold Insert.text
    simp only [String.toList_append, List.append_assoc]
  have hinsert : Opens "INSERT INTO ".toList ["INSERT", "INTO"] := fun _ => rfl
  have hopen : Opens " (".toList ["("] := fun _ => rfl
  have hbetween : Opens ") VALUES (".toList [")", "VALUES", "("] := fun _ => rfl
  have hclose : ∀ rest, tokensFrom [] (") ON CONFLICT (".toList ++ rest) =
      ")" :: tokensFrom [] (" ON CONFLICT (".toList ++ rest) := fun _ => rfl
  refine ⟨tokensFrom [] (" ON CONFLICT (".toList ++ ((commas i.unique).toList ++
    ") DO NOTHING".toList)), ?_⟩
  rw [tokens, htext, hinsert, h.table.reads (" (".toList ++ _) (Or.inl rfl), hopen,
    hlist (") VALUES (".toList ++ _) (Or.inr (by decide)), hbetween,
    hvalues (") ON CONFLICT (".toList ++ _) (Or.inr (by decide)), hclose]
  rfl

theorem insertion?_text {i : Insert} (h : i.Named) : insertion? i.text = some i.insertion := by
  obtain ⟨after, htokens⟩ := tokens_insert h
  have hclose : ")" ∈ closers := by decide
  have hcomma : ")" ≠ "," := by decide
  have hcolumns := listed_map (fun v : String × Source => [v.1]) hcomma h.nonempty
    fun v hv => (h.columns v hv).whole hclose
  have hvalues := listed_map (fun v : String × Source => v.2.tokens v.1) hcomma h.nonempty
    fun v hv => whole_source hclose (h.columns v hv) v.2
  have hnames : (i.values.map fun v => [v.1]).mapM name? = some (i.values.map Prod.fst) :=
    mapM_map fun v _ => rfl
  have hterms : (i.values.map fun v => v.2.tokens v.1).mapM term? =
      some (i.values.map fun v => v.2.term v.1) :=
    mapM_map fun v hv => term?_source (h.columns v hv) v.2
  simp only [insertion?, htokens, hcolumns, hvalues, hnames, hterms]
  simp [Insert.insertion, List.zip_map']

/-- A column and its new value. -/
theorem reads_assignment {v : String × Source} (h : IsWord v.1) :
    Reads (v.1 ++ " = " ++ v.2.text v.1).toList (v.1 :: "=" :: v.2.tokens v.1) := by
  intro rest hrest
  have hequals : Opens " = ".toList ["="] := fun _ => rfl
  simp only [String.toList_append, List.append_assoc]
  rw [h.reads (" = ".toList ++ _) (Or.inl rfl), hequals, reads_source h v.2 rest hrest]
  rfl

theorem assignment?_tokens {v : String × Source} (h : IsName v.1) :
    assignment? (v.1 :: "=" :: v.2.tokens v.1) = some (v.1, v.2.term v.1) := by
  simp [assignment?, term?_source h]

theorem whole_assignment {close : String} (hclose : close ∈ closers) {v : String × Source}
    (h : IsName v.1) : Whole close (v.1 :: "=" :: v.2.tokens v.1) := by
  have hequals : Whole close ["="] := whole_of_not_mem hclose (by decide) (by decide)
  exact (h.whole hclose).append (hequals.append (whole_source hclose h v.2))

structure Update.Named (u : Update) : Prop where
  table : IsName u.table
  columns : ∀ v ∈ u.changes, IsName v.1
  nonempty : u.changes ≠ []

def Update.change (u : Update) : Change where
  table := u.table
  changes := u.changes.map fun v => (v.1, v.2.term v.1)
  keys := [("guid", .param 1)]

theorem tokens_update {u : Update} (h : u.Named) : tokens u.text =
    "UPDATE" :: u.table :: "SET" ::
      ([","].intercalate (u.changes.map fun v => v.1 :: "=" :: v.2.tokens v.1) ++
        "WHERE" :: ["guid", "=", "$1"]) := by
  have hchanges := reads_commas h.nonempty
    fun v hv => reads_assignment (v := v) (h.columns v hv).toIsWord
  have htext : u.text.toList = "UPDATE ".toList ++ (u.table.toList ++ (" SET ".toList ++
      ((commas (u.changes.map fun v => v.1 ++ " = " ++ v.2.text v.1)).toList ++
        " WHERE guid = $1".toList))) := by
    unfold Update.text
    simp only [String.toList_append, List.append_assoc]
  have hupdate : Opens "UPDATE ".toList ["UPDATE"] := fun _ => rfl
  have hset : Opens " SET ".toList ["SET"] := fun _ => rfl
  rw [tokens, htext, hupdate, h.table.reads (" SET ".toList ++ _) (Or.inl rfl), hset,
    hchanges " WHERE guid = $1".toList (Or.inl rfl)]
  rfl

theorem change?_text {u : Update} (h : u.Named) : change? u.text = some u.change := by
  have hclose : "WHERE" ∈ closers := by decide
  have hcomma : "WHERE" ≠ "," := by decide
  have hchanges := listed_map (fun v : String × Source => v.1 :: "=" :: v.2.tokens v.1) hcomma
    h.nonempty fun v hv => whole_assignment hclose (h.columns v hv)
  have hparts : (u.changes.map fun v => v.1 :: "=" :: v.2.tokens v.1).mapM assignment? =
      some (u.changes.map fun v => (v.1, v.2.term v.1)) :=
    mapM_map fun v hv => assignment?_tokens (h.columns v hv)
  have hkeys : keys? ["guid", "=", "$1"] = some [("guid", .param 1)] := by decide +kernel
  simp only [change?, tokens_update h, hchanges, hparts, hkeys]
  rfl

structure Select.Named (s : Select) : Prop where
  table : IsName s.table
  columns : ∀ c ∈ s.columns, IsName c.name
  keys : ∀ key ∈ s.keys, IsName key
  shown : s.columns ≠ []
  keyed : s.keys ≠ []

/-- The keys of a selection, each with the number of its parameter. -/
def Select.numbered (s : Select) : List (String × Source) :=
  (s.keys.zipIdx 1).map fun v => (v.1, .bind v.2)

def Select.selection (s : Select) : Selection where
  table := s.table
  columns := s.columns.map fun c => (c.name, c.name)
  keys := s.numbered.map fun v => (v.1, v.2.term v.1)

theorem Select.Named.numbered {s : Select} (h : s.Named) : s.numbered ≠ [] ∧
    ∀ v ∈ s.numbered, IsName v.1 := by
  refine ⟨?_, ?_⟩
  · simpa [Select.numbered] using h.keyed
  · intro v hv
    obtain ⟨⟨key, n⟩, hmem, rfl⟩ := List.mem_map.mp hv
    exact h.keys key (List.fst_mem_of_mem_zipIdx hmem)

theorem tokens_select {s : Select} (h : s.Named) : tokens s.text =
    "SELECT" :: ([","].intercalate (s.columns.map Column.tokens) ++ "FROM" :: s.table :: "WHERE" ::
      ["AND"].intercalate (s.numbered.map fun v => v.1 :: "=" :: v.2.tokens v.1)) := by
  obtain ⟨hkeyed, hnames⟩ := h.numbered
  have hcolumns := reads_commas h.shown fun c hc => reads_column (h.columns c hc).toIsWord
  have hkeys := reads_intercalate " AND " "AND" (fun _ => rfl)
    (fun _ => Or.inl rfl) hkeyed fun v hv => reads_assignment (v := v) (hnames v hv).toIsWord
  have hnumbered : ((s.keys.zipIdx 1).map fun v => v.1 ++ " = " ++ place v.2) =
      s.numbered.map fun v => v.1 ++ " = " ++ v.2.text v.1 := by
    simp [Select.numbered, Function.comp_def, Source.text]
  have htext : s.text.toList = "SELECT ".toList ++ ((commas (s.columns.map Column.text)).toList ++
      (" FROM ".toList ++ (s.table.toList ++ (" WHERE ".toList ++ (" AND ".intercalate
        (s.numbered.map fun v => v.1 ++ " = " ++ v.2.text v.1)).toList)))) := by
    rw [← hnumbered]
    unfold Select.text
    simp only [String.toList_append, List.append_assoc]
  have hselect : Opens "SELECT ".toList ["SELECT"] := fun _ => rfl
  have hfrom : Opens " FROM ".toList ["FROM"] := fun _ => rfl
  have hwhere : Opens " WHERE ".toList ["WHERE"] := fun _ => rfl
  have hend := hkeys [] trivial
  rw [List.append_nil] at hend
  rw [tokens, htext, hselect, hcolumns (" FROM ".toList ++ _) (Or.inl rfl), hfrom,
    h.table.reads (" WHERE ".toList ++ _) (Or.inl rfl), hwhere, hend]
  simp [tokensFrom, closeWord]

theorem selected?_tokens (c : Column) : selected? c.tokens = some (c.name, c.name) := by
  cases c <;> rfl

theorem and_not_mem_assignment {v : String × Source} (h : IsName v.1) :
    "AND" ∉ v.1 :: "=" :: v.2.tokens v.1 := by
  have hname : "AND" ≠ v.1 := fun he => absurd (he ▸ h.noCloser) (by decide)
  have hplace : ∀ n, "AND" ≠ place n := fun n he =>
    absurd (he ▸ place_not_mem_closers n) (by decide)
  cases v.2 <;> simp [Source.tokens, hname, hplace]

theorem selection?_text {s : Select} (h : s.Named) : selection? s.text = some s.selection := by
  obtain ⟨hkeyed, hnames⟩ := h.numbered
  have hclose : "FROM" ∈ closers := by decide
  have hcomma : "FROM" ≠ "," := by decide
  have hcolumns := listed_map Column.tokens hcomma h.shown
    fun c hc => whole_column hclose (h.columns c hc)
  have hshown : (s.columns.map Column.tokens).mapM selected? =
      some (s.columns.map fun c => (c.name, c.name)) := mapM_map fun c _ => selected?_tokens c
  have hkeys : keys? (["AND"].intercalate
      (s.numbered.map fun v => v.1 :: "=" :: v.2.tokens v.1)) =
        some (s.numbered.map fun v => (v.1, v.2.term v.1)) := by
    have hnone : ∀ l ∈ s.numbered.map fun v => v.1 :: "=" :: v.2.tokens v.1, "AND" ∉ l := by
      intro l hl
      obtain ⟨v, hv, rfl⟩ := List.mem_map.mp hl
      exact and_not_mem_assignment (hnames v hv)
    rw [keys?, List.splitOn_intercalate _ hnone (by simpa using hkeyed)]
    exact mapM_map fun v hv => assignment?_tokens (hnames v hv)
  simp only [selection?, tokens_select h, hcolumns, hshown, hkeys]
  rfl

end LiveEvents.Sql
