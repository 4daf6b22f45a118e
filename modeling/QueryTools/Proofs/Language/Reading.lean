import QueryTools.Language.Parser

/-!
# Parsers on known tokens

What a parser does is known where the tokens ahead are.  `Parser.Reads` says that it takes given
tokens off the front and what it makes of them, and `Parser.Refuses` that it gives up because they
are nested too deeply.  Both go along the steps of a parser, so that what is known of the parts gives
what is known of the whole.

Main statements: lists between marks are read entry by entry (`Parser.reads_any`,
`Parser.reads_optionalMany`), and one entry that is nested too deeply spoils them
(`Parser.refuses_any`, `Parser.refuses_optionalMany`).
-/

namespace QueryTools.Parser

variable {α β γ δ : Type}

/-- A parser takes tokens off the front of what is left of a text. -/
def Reads (p : Parser α) (front rest : List Token) (post : α → Prop) : Prop :=
  ∀ ts : Tokens, ts.toList? = some (front ++ rest) →
    ∃ a ts', p ts = .ok (a, ts') ∧ ts'.toList? = some rest ∧ post a

/-- A parser gives up because what is left of a text is nested too deeply. -/
def Refuses (p : Parser α) (front : List Token) : Prop :=
  ∀ ts : Tokens, ts.toList? = some front → ∃ position, p ts = .error ⟨position, .tooDeep⟩

/-! ## Steps one after the other -/

/-- Where the first parser succeeds, the next one reads on. -/
theorem bind_of_ok {p : Parser α} {f : α → Parser β} {ts ts' : Tokens} {a : α}
    (first : p ts = .ok (a, ts')) : (p >>= f) ts = f a ts' := by
  show (p ts >>= fun r => f r.1 r.2) = f a ts'
  rw [first]
  rfl

/-- Where it fails, the whole does. -/
theorem bind_of_error {p : Parser α} {f : α → Parser β} {ts : Tokens} {e : SyntaxError}
    (first : p ts = .error e) : (p >>= f) ts = .error e := by
  show (p ts >>= fun r => f r.1 r.2) = .error e
  rw [first]
  rfl

theorem reads_pure {a : α} {rest : List Token} {post : α → Prop} (made : post a) :
    Reads (pure a) [] rest post :=
  fun ts left => ⟨a, ts, rfl, left, made⟩

/-- Two parsers read one after the other what each of them reads. -/
theorem Reads.bind {p : Parser α} {f : α → Parser β} {front middle rest : List Token}
    {post : α → Prop} {post' : β → Prop} (first : Reads p front (middle ++ rest) post)
    (later : ∀ a, post a → Reads (f a) middle rest post') :
    Reads (p >>= f) (front ++ middle) rest post' := by
  intro ts left
  rw [List.append_assoc] at left
  obtain ⟨a, ts', taken, left', made⟩ := first ts left
  rw [bind_of_ok taken]
  exact later a made ts' left'

/-- What the second parser refuses is refused behind what the first reads. -/
theorem Reads.bind_refuses {p : Parser α} {f : α → Parser β} {front rest : List Token}
    {post : α → Prop} (first : Reads p front rest post)
    (later : ∀ a, post a → Refuses (f a) rest) : Refuses (p >>= f) (front ++ rest) := by
  intro ts left
  obtain ⟨a, ts', taken, left', made⟩ := first ts left
  rw [bind_of_ok taken]
  exact later a made ts' left'

/-- A step that only looks at what comes next. -/
theorem Reads.look {p : Parser α} {f : α → Parser β} {front rest : List Token} {post : α → Prop}
    {post' : β → Prop} (first : Reads p [] (front ++ rest) post)
    (later : ∀ a, post a → Reads (f a) front rest post') : Reads (p >>= f) front rest post' :=
  Reads.bind first later

/-- What the second parser refuses is refused where the first only looks ahead. -/
theorem Reads.look_refuses {p : Parser α} {f : α → Parser β} {front : List Token} {post : α → Prop}
    (first : Reads p [] front post) (later : ∀ a, post a → Refuses (f a) front) :
    Refuses (p >>= f) front :=
  Reads.bind_refuses first later

/-- The steps after the last token. -/
theorem Reads.bind_last {p : Parser α} {f : α → Parser β} {front rest : List Token}
    {post : α → Prop} {post' : β → Prop} (first : Reads p front rest post)
    (later : ∀ a, post a → Reads (f a) [] rest post') : Reads (p >>= f) front rest post' := by
  rw [← List.append_nil front]
  exact Reads.bind first later

/-- What the first parser refuses is refused. -/
theorem Refuses.bind {p : Parser α} {f : α → Parser β} {front : List Token}
    (first : Refuses p front) : Refuses (p >>= f) front := by
  intro ts left
  obtain ⟨position, refused⟩ := first ts left
  exact ⟨position, bind_of_error refused⟩

/-- Less may be known of what was read. -/
theorem Reads.weaken {p : Parser α} {front rest : List Token} {post post' : α → Prop}
    (read : Reads p front rest post) (known : ∀ a, post a → post' a) :
    Reads p front rest post' := by
  intro ts left
  obtain ⟨a, ts', taken, left', made⟩ := read ts left
  exact ⟨a, ts', taken, left', known a made⟩

/-- What is made of what was read is known from what was known of it. -/
theorem Reads.map {p : Parser α} {f : α → β} {front rest : List Token} {post : α → Prop}
    {post' : β → Prop} (first : Reads p front rest post) (made : ∀ a, post a → post' (f a)) :
    Reads (f <$> p) front rest post' := by
  intro ts left
  obtain ⟨a, ts', taken, left', known⟩ := first ts left
  refine ⟨f a, ts', ?_, left', made a known⟩
  show (do let r ← p ts; pure (f r.1, r.2)) = Except.ok (f a, ts')
  rw [taken]
  rfl

/-- What is made of a result makes no parser accept more. -/
theorem Refuses.map {p : Parser α} {f : α → β} {front : List Token} (first : Refuses p front) :
    Refuses (f <$> p) front := by
  intro ts left
  obtain ⟨position, refused⟩ := first ts left
  refine ⟨position, ?_⟩
  show (do let r ← p ts; pure (f r.1, r.2)) = Except.error _
  rw [refused]
  rfl

/-! ## The next token -/

/-- Tokens that are listed with a first one begin with it. -/
theorem exists_cons_of_toList? {ts : Tokens} {t : Token} {rest : List Token}
    (left : ts.toList? = some (t :: rest)) :
    ∃ position ts', ts = .cons position t ts' ∧ ts'.toList? = some rest := by
  cases ts with
  | last position => simp [Tokens.toList?] at left
  | fault position cause => simp [Tokens.toList?] at left
  | cons position u ts' =>
      simp only [Tokens.toList?, Option.map_eq_some_iff, List.cons.injEq] at left
      obtain ⟨us, left', rfl, rfl⟩ := left
      exact ⟨position, ts', rfl, left'⟩

/-- The next token is the first of those that are listed. -/
theorem peek_of_toList? {ts : Tokens} {rest : List Token} (left : ts.toList? = some rest) :
    ∃ position, peek ts = .ok ((position, rest.head?), ts) := by
  cases rest with
  | nil =>
      cases ts with
      | last position => exact ⟨position, rfl⟩
      | fault position cause => simp [Tokens.toList?] at left
      | cons position u ts' => simp [Tokens.toList?] at left
  | cons t more =>
      obtain ⟨position, ts', rfl, -⟩ := exists_cons_of_toList? left
      exact ⟨position, rfl⟩

/-- Looking at the next token reads nothing. -/
theorem reads_peek (rest : List Token) : Reads peek [] rest fun found => found.2 = rest.head? := by
  intro ts left
  obtain ⟨position, seen⟩ := peek_of_toList? left
  exact ⟨_, ts, seen, left, rfl⟩

/-- Going on reads one token. -/
theorem reads_advance (t : Token) (rest : List Token) : Reads advance [t] rest fun _ => True := by
  intro ts left
  obtain ⟨position, ts', rfl, left'⟩ := exists_cons_of_toList? left
  exact ⟨(), ts', rfl, left', trivial⟩

theorem reads_next (t : Token) (rest : List Token) :
    Reads (next t) [] rest fun b => b = decide (rest.head? = some t) :=
  (reads_peek rest).bind fun found same => reads_pure (by rw [same])

/-- A token that is next is accepted. -/
theorem reads_accept (t : Token) (rest : List Token) :
    Reads (accept t) [t] rest fun b => b = true := by
  refine (reads_next t _).bind fun b same => ?_
  have here : b = true := by simpa using same
  rw [here, if_pos rfl]
  refine (reads_advance t rest).bind_last fun _ _ => ?_
  exact reads_pure rfl

/-- Where another is next nothing is read. -/
theorem reads_accept_other {t : Token} {rest : List Token} (other : rest.head? ≠ some t) :
    Reads (accept t) [] rest fun b => b = false := by
  refine (reads_next t _).bind fun b same => ?_
  have here : b = false := by simpa [other] using same
  rw [here]
  exact reads_pure rfl

/-- A token that is expected and next is read. -/
theorem reads_expect (t : Token) (rest : List Token) : Reads (expect t) [t] rest fun _ => True := by
  refine (reads_peek _).bind fun found same => ?_
  have here : found.2 = some t := same
  obtain ⟨position, seen⟩ := found
  simp only at here ⊢
  rw [if_pos here]
  exact reads_advance t rest

/-- A name is read as its text. -/
theorem reads_name (text : String) (rest : List Token) :
    Reads name [.name text] rest fun read => read = text := by
  refine (reads_peek _).bind fun found same => ?_
  have here : found.2 = some (.name text) := same
  obtain ⟨position, seen⟩ := found
  simp only at here
  subst here
  refine (reads_advance _ rest).bind_last fun _ _ => ?_
  exact reads_pure rfl

/-- Tokens are as many as are listed. -/
theorem length_of_toList? {ts : Tokens} {rest : List Token} (left : ts.toList? = some rest) :
    ts.length = rest.length := by
  induction ts generalizing rest with
  | last position =>
      cases left
      rfl
  | fault position cause => cases left
  | cons position t more ih =>
      simp only [Tokens.toList?, Option.map_eq_some_iff] at left
      obtain ⟨us, left', rfl⟩ := left
      rw [Tokens.length, ih left', List.length_cons]

/-- There are always more rounds than tokens. -/
theorem reads_budget (rest : List Token) : Reads budget [] rest fun n => n = rest.length + 1 :=
  fun ts left => ⟨_, ts, rfl, left, by rw [length_of_toList? left]; rfl⟩

/-- What is too deep is refused. -/
theorem refuses_tooDeep (rest : List Token) : Refuses (tooDeep : Parser α) rest := by
  intro ts left
  obtain ⟨position, seen⟩ := peek_of_toList? left
  exact ⟨position, bind_of_ok seen⟩

/-! ## Lists between marks -/

/-- How the entries of a list are read.  Those that fit are read as what they stand for, the others
are nested too deeply; where one entry ends and what follows it is known. -/
structure Entries (item : Parser α) (close : Token) (tokens : β → List Token) (fits : β → Prop)
    (made : α → γ) (meant : β → γ) (follow : List Token → Prop) (xs : List β) : Prop where
  starts : ∀ x ∈ xs, ∃ t more, tokens x = t :: more ∧ t ≠ close
  closes : ∀ rest, follow (close :: rest)
  goesOn : ∀ x ∈ xs, ∀ rest, follow (tokens x ++ rest)
  reads : ∀ x ∈ xs, fits x → ∀ rest, follow rest →
    Reads item (tokens x) rest fun a => made a = meant x
  refuses : ∀ x ∈ xs, ¬ fits x → ∀ rest, Refuses item (tokens x ++ rest)

namespace Entries

variable {item : Parser α} {opening close : Token} {tokens : β → List Token} {fits : β → Prop}
  {made : α → γ} {meant : β → γ} {follow : List Token → Prop} {xs : List β}

/-- What is known of entries is known without the first of them. -/
theorem tail {x : β} (entries : Entries item close tokens fits made meant follow (x :: xs)) :
    Entries item close tokens fits made meant follow xs where
  starts y member := entries.starts y (List.mem_cons_of_mem x member)
  closes := entries.closes
  goesOn y member := entries.goesOn y (List.mem_cons_of_mem x member)
  reads y member := entries.reads y (List.mem_cons_of_mem x member)
  refuses y member := entries.refuses y (List.mem_cons_of_mem x member)

/-- What stands behind an entry is another one or the closing mark. -/
theorem follow_rest (entries : Entries item close tokens fits made meant follow xs)
    (rest : List Token) : follow (xs.flatMap tokens ++ (close :: rest)) := by
  cases xs with
  | nil => exact entries.closes rest
  | cons x more =>
      rw [List.flatMap_cons, List.append_assoc]
      exact entries.goesOn x List.mem_cons_self _

/-- An entry does not begin with the token that closes them. -/
theorem accept_close {x : β} (entries : Entries item close tokens fits made meant follow (x :: xs))
    (rest : List Token) : Reads (accept close) [] (tokens x ++ rest) fun b => b = false := by
  obtain ⟨t, more, starts, other⟩ := entries.starts x List.mem_cons_self
  refine reads_accept_other ?_
  rw [starts, List.cons_append, List.head?_cons, ne_eq, Option.some.injEq]
  exact other

/-- Each entry is written with one token at least. -/
theorem length_le (entries : Entries item close tokens fits made meant follow xs) :
    xs.length ≤ (xs.flatMap tokens).length := by
  induction xs with
  | nil => exact Nat.le_refl 0
  | cons x rest ih =>
      obtain ⟨t, more, starts, -⟩ := entries.starts x List.mem_cons_self
      have later := ih entries.tail
      rw [List.flatMap_cons, List.length_append, List.length_cons, starts, List.length_cons]
      omega

/-- Entries that all fit are read up to the token that closes them. -/
theorem reads_untilClosed (entries : Entries item close tokens fits made meant follow xs)
    (all : ∀ x ∈ xs, fits x) (rest : List Token) {n : Nat} (enough : xs.length < n) :
    Reads (untilClosed item close n) (xs.flatMap tokens ++ [close]) rest
      fun as => as.map made = xs.map meant := by
  induction xs generalizing n with
  | nil =>
      cases n with
      | zero => exact absurd enough (Nat.not_lt_zero _)
      | succ n =>
          refine (reads_accept close rest).bind_last fun b closed => ?_
          rw [if_pos closed]
          exact reads_pure rfl
  | cons x more ih =>
      cases n with
      | zero => exact absurd enough (Nat.not_lt_zero _)
      | succ n =>
          -- One round spends one entry and one unit of the budget.
          have later := ih entries.tail (fun y member => all y (List.mem_cons_of_mem x member))
            (Nat.lt_of_succ_lt_succ enough)
          have here := entries.reads x List.mem_cons_self (all x List.mem_cons_self) _
            (entries.tail.follow_rest rest)
          rw [List.flatMap_cons, List.append_assoc]
          refine Reads.look (by rw [List.append_assoc]; exact entries.accept_close _) fun b ended => ?_
          rw [ended, if_neg Bool.false_ne_true]
          rw [← List.singleton_append, ← List.append_assoc] at here
          refine here.bind fun a same => ?_
          refine later.bind_last fun as sames => reads_pure ?_
          rw [List.map_cons, List.map_cons, same, sames]

/-- If one of them does not fit they are refused. -/
theorem refuses_untilClosed (entries : Entries item close tokens fits made meant follow xs)
    (deep : ∃ x ∈ xs, ¬ fits x) (rest : List Token) {n : Nat} (enough : xs.length < n) :
    Refuses (untilClosed item close n) (xs.flatMap tokens ++ (close :: rest)) := by
  induction xs generalizing n with
  | nil =>
      obtain ⟨x, member, -⟩ := deep
      cases member
  | cons x more ih =>
      cases n with
      | zero => exact absurd enough (Nat.not_lt_zero _)
      | succ n =>
          rw [List.flatMap_cons, List.append_assoc]
          refine Reads.look_refuses (entries.accept_close _) fun b ended => ?_
          rw [ended, if_neg Bool.false_ne_true]
          -- Entries are read up to the first that does not fit, and there reading ends.
          by_cases fit : fits x
          · have later : ∃ y ∈ more, ¬ fits y := by simpa [fit] using deep
            refine (entries.reads x List.mem_cons_self fit _
              (entries.tail.follow_rest rest)).bind_refuses fun a _ => ?_
            exact (ih entries.tail later (Nat.lt_of_succ_lt_succ enough)).bind
          · exact (entries.refuses x List.mem_cons_self fit _).bind

/-- The budget that is left at a list is enough for it. -/
theorem enough (entries : Entries item close tokens fits made meant follow xs) (rest : List Token) :
    xs.length < (xs.flatMap tokens ++ (close :: rest)).length + 1 := by
  have := entries.length_le
  rw [List.length_append]
  omega

/-- Entries that all fit are read between the tokens that open and close them. -/
theorem reads_any (entries : Entries item close tokens fits made meant follow xs)
    (all : ∀ x ∈ xs, fits x) (opening : Token) (rest : List Token) :
    Reads (any opening item close) (opening :: xs.flatMap tokens ++ [close]) rest
      fun as => as.map made = xs.map meant := by
  refine (reads_expect opening _).bind fun _ _ => ?_
  refine (reads_budget _).look fun n same => ?_
  refine entries.reads_untilClosed all rest ?_
  rw [same]
  simpa using entries.enough rest

/-- If one of them does not fit they are refused between these tokens. -/
theorem refuses_any (entries : Entries item close tokens fits made meant follow xs)
    (deep : ∃ x ∈ xs, ¬ fits x) (opening : Token) (rest : List Token) :
    Refuses (any opening item close) (opening :: xs.flatMap tokens ++ (close :: rest)) := by
  refine (reads_expect opening _).bind_refuses fun _ _ => ?_
  refine (reads_budget _).look_refuses fun n same => ?_
  refine entries.refuses_untilClosed deep rest ?_
  rw [same]
  exact entries.enough rest

/-- Entries that all fit are read, and where there are none nothing is. -/
theorem reads_optionalMany (entries : Entries item close tokens fits made meant follow xs)
    (all : ∀ x ∈ xs, fits x) {opening : Token} {rest : List Token}
    (other : rest.head? ≠ some opening) :
    Reads (optionalMany opening item close)
      (if xs.isEmpty then [] else opening :: xs.flatMap tokens ++ [close]) rest
      fun as => as.map made = xs.map meant := by
  cases xs with
  | nil =>
      refine (reads_next opening _).look fun b same => ?_
      have missing : b = false := by simpa [other] using same
      rw [missing, if_neg Bool.false_ne_true]
      exact reads_pure rfl
  | cons x more =>
      refine (reads_next opening _).look fun b same => ?_
      have here : b = true := by simpa using same
      rw [here, if_pos rfl]
      have later := fun n enough => entries.tail.reads_untilClosed
        (fun y member => all y (List.mem_cons_of_mem x member)) rest (n := n) enough
      have first := entries.reads x List.mem_cons_self (all x List.mem_cons_self) _
        (entries.tail.follow_rest rest)
      rw [← List.singleton_append, ← List.append_assoc] at first
      simp only [List.isEmpty_cons, Bool.false_eq_true, if_false, List.flatMap_cons]
      rw [List.cons_append, List.append_assoc]
      refine (reads_expect opening _).bind fun _ _ => ?_
      refine first.bind fun a same => ?_
      refine (reads_budget _).look fun n left => ?_
      refine (later n ?_).bind_last fun as sames => reads_pure ?_
      · rw [left]
        simpa using entries.tail.enough rest
      · rw [List.map_cons, List.map_cons, same, sames]

/-- If one of them does not fit they are refused, for then there are some. -/
theorem refuses_optionalMany (entries : Entries item close tokens fits made meant follow xs)
    (deep : ∃ x ∈ xs, ¬ fits x) (opening : Token) (rest : List Token) :
    Refuses (optionalMany opening item close)
      ((if xs.isEmpty then [] else opening :: xs.flatMap tokens ++ [close]) ++ rest) := by
  cases xs with
  | nil =>
      obtain ⟨x, member, -⟩ := deep
      cases member
  | cons x more =>
      refine (reads_next opening _).look_refuses fun b same => ?_
      have here : b = true := by simpa using same
      rw [here, if_pos rfl]
      simp only [List.isEmpty_cons, Bool.false_eq_true, if_false, List.flatMap_cons]
      rw [List.cons_append, List.cons_append, List.append_assoc, List.append_assoc]
      refine (reads_expect opening _).bind_refuses fun _ _ => ?_
      by_cases fit : fits x
      · have later : ∃ y ∈ more, ¬ fits y := by simpa [fit] using deep
        have first := entries.reads x List.mem_cons_self fit _ (entries.tail.follow_rest rest)
        refine first.bind_refuses fun a _ => ?_
        refine (reads_budget _).look_refuses fun n left => ?_
        refine (entries.tail.refuses_untilClosed later rest ?_).bind
        rw [left]
        exact entries.tail.enough rest
      · exact (entries.refuses x List.mem_cons_self fit _).bind

end Entries

end QueryTools.Parser
