import TapScript.Proofs.Scan
import TapScript.Proofs.Separation

/-! # Lexemes

An expression falls apart into lexemes: blanks, signs, numbers, names and literals. The scanner,
which reads it character by character and resolves escapes on the way, gives exactly the tokens of
the lexemes. A text that should be one literal is read in another way: it is cut at its closing
quote first, and then its escapes are resolved. Both ways accept the same literals and give the same
texts for them, whatever quotes and backslashes stand in them.

* `Text.IsLiteral` says which texts are literals, and for what they stand;
  `Text.Literal.decode?_eq_some_iff` says that these are the ones that are decoded.
* `Token.Lexeme` are the lexemes; `Token.scanFrom?_eq_some_iff` says that the scanner finds them.
* `literal_readers_agree` puts the two ways of reading next to each other, and next to the
  writer. -/

namespace TapScript

namespace Text

/-! ## Literals -/

/-- The text is a literal in quotes of either kind, and it stands for `read`. -/
def IsLiteral (t read : Text) : Prop :=
  ∃ quote raw, isQuote quote ∧ t = quote :: (raw ++ [quote]) ∧ Literal.Contents quote raw read

/-- No quote is a blank. -/
theorem isBlank_eq_false_of_isQuote {c : Char} (h : isQuote c) : isBlank c = false := by
  cases hblank : isBlank c with
  | false => rfl
  | true =>
    rw [isQuote_eq_false_of_isBlank hblank] at h
    cases h

/-- There are no blanks around a literal. -/
theorem IsLiteral.trim_eq {t read : Text} (h : IsLiteral t read) : trim t = t := by
  obtain ⟨quote, raw, hquote, rfl, -⟩ := h
  refine trim_eq_self (fun c hc => ?_) fun c hc => ?_
  · cases hc
    exact isBlank_eq_false_of_isQuote hquote
  · rw [← List.cons_append, List.getLast?_concat] at hc
    cases hc
    exact isBlank_eq_false_of_isQuote hquote

namespace Literal

/-- The literal that is written for a text stands for it. -/
theorem isLiteral_encode (t : Text) : IsLiteral (encode t) t :=
  ⟨'"', escape t, rfl, rfl, contents_escape t⟩

/-- Outside of escapes, the literal ends at the first quote of its kind, and the text with it. -/
theorem body?_cons {quote c : Char} (hescape : c ≠ '\\') (t : Text) :
    body? quote (c :: t) =
      if c == quote then (if t.isEmpty then some [] else none) else (body? quote t).map (c :: ·) :=
  body?.eq_3 _ _ _ (by rintro d s rfl; exact absurd rfl hescape)

/-- All but backslashes stand for themselves. -/
theorem unescape_cons {quote c : Char} (hescape : c ≠ '\\') (t : Text) :
    unescape quote (c :: t) = c :: unescape quote t :=
  unescape.eq_3 _ _ _ (by rintro d s rfl; exact absurd rfl hescape)

/-- The contents reach up to the quote at the end, and their escapes are resolved. -/
theorem Contents.body?_eq {quote : Char} (hquote : isQuote quote) {raw read : Text}
    (h : Contents quote raw read) :
    body? quote (raw ++ [quote]) = some raw ∧ unescape quote raw = read := by
  induction h with
  | nil =>
    rw [List.nil_append, body?_cons (ne_backslash_of_isQuote hquote), if_pos (beq_self_eq_true _)]
    exact ⟨rfl, rfl⟩
  | plain hc hescape h ih =>
    rw [List.cons_append, body?_cons hescape, if_neg (by simpa using hc),
      unescape_cons hescape, ih.1, ih.2]
    exact ⟨rfl, rfl⟩
  | dropped hc h ih =>
    rw [List.cons_append, List.cons_append, body?, unescape, ih.1, ih.2, if_pos (by simpa using hc)]
    exact ⟨rfl, rfl⟩
  | kept hc hescape h ih =>
    rw [List.cons_append, List.cons_append, body?, unescape, ih.1, ih.2,
      if_neg (by simp [hc, hescape])]
    exact ⟨rfl, rfl⟩

/-- Whatever is cut off at the closing quote are contents. -/
theorem contents_of_body? {quote : Char} {t raw : Text} (h : body? quote t = some raw) :
    t = raw ++ [quote] ∧ Contents quote raw (unescape quote raw) := by
  fun_induction body? quote t generalizing raw with
  | case1 => cases h
  | case2 c t ih =>
    obtain ⟨raw, hbody, rfl⟩ := Option.map_eq_some_iff.1 h
    obtain ⟨rfl, hraw⟩ := ih hbody
    refine ⟨rfl, ?_⟩
    rw [unescape]
    split
    · rename_i hc
      exact .dropped (by simpa using hc) hraw
    · rename_i hc
      obtain ⟨hc, hescape⟩ : c ≠ quote ∧ c ≠ '\\' := by simpa using hc
      exact .kept hc hescape hraw
  | case3 c t hescape hc hnil =>
    cases h
    obtain rfl := List.isEmpty_iff.1 hnil
    exact ⟨by rw [beq_iff_eq.1 hc]; rfl, .nil⟩
  | case4 c t hescape hc hnil => cases h
  | case5 c t hescape hc ih =>
    obtain ⟨raw, hbody, rfl⟩ := Option.map_eq_some_iff.1 h
    obtain ⟨rfl, hraw⟩ := ih hbody
    -- a backslash in this place would be the last character, and then there is no closing quote
    have hne : c ≠ '\\' := by
      rintro rfl
      cases hlast : raw ++ [quote] with
      | nil => exact absurd hlast (by simp)
      | cons d s => exact hescape d s rfl hlast
    refine ⟨rfl, ?_⟩
    rw [unescape_cons hne]
    exact .plain (by simpa using hc) hne hraw

/-- A literal is decoded exactly as what it stands for, apart from blanks around it. -/
theorem decode?_eq_some_iff {t read : Text} : decode? t = some read ↔ IsLiteral (trim t) read := by
  constructor
  · intro h
    unfold decode? at h
    split at h
    · cases h
    · rename_i quote r htrim
      split at h
      · rename_i hquote
        obtain ⟨raw, hbody, rfl⟩ := Option.map_eq_some_iff.1 h
        obtain ⟨rfl, hraw⟩ := contents_of_body? hbody
        exact ⟨quote, raw, hquote, htrim, hraw⟩
      · cases h
  · rintro ⟨quote, raw, hquote, htrim, hraw⟩
    obtain ⟨hbody, hread⟩ := hraw.body?_eq hquote
    rw [decode?, htrim]
    simp only [hquote, if_true, hbody, Option.map_some, hread]

end Literal

end Text

namespace Token

open Text.Literal (Contents)

/-! ## Lexemes -/

/-- A piece of an expression that is read as a whole. -/
inductive Lexeme where
  | blank (c : Char) (hc : Text.isBlank c)
  | sign (c : Char) (hc : isSign c)
  | number (n : Numeral)
  | name (x : Identifier)
  | literal (quote : Char) (raw read : Text) (hquote : Text.isQuote quote)
      (hraw : Contents quote raw read)

namespace Lexeme

/-- The characters of the lexeme. -/
def text : Lexeme → Text
  | blank c _ => [c]
  | sign c _ => [c]
  | number n => n.digits
  | name x => x.text
  | literal quote raw _ _ _ => quote :: (raw ++ [quote])

/-- The token that the lexeme is, unless it is a blank. -/
def tokens : Lexeme → List Token
  | blank .. => []
  | sign c _ => [.sign c]
  | number n => [.number n.value]
  | name x => [.name x.text]
  | literal _ _ read _ _ => [.literal read]

/-- The lexeme ends where the text begins: numbers and names reach as far as they can. -/
def EndsBefore : Lexeme → Text → Prop
  | number _, t => ∀ c ∈ t.head?, Pending.isNumberChar c = false
  | name _, t => ∀ c ∈ t.head?, Text.isNameChar c = false
  | _, _ => True

/-- The lexemes can stand one behind the other. -/
def IsSeries : List Lexeme → Prop
  | [] => True
  | l :: ls => l.EndsBefore (ls.flatMap text) ∧ IsSeries ls

/-- A lexeme is scanned as its tokens, if it ends where the rest begins. -/
theorem scanFrom?_text_append {l : Lexeme} {t : Text} (h : l.EndsBefore t) :
    scanFrom? .none (l.text ++ t) = (scanFrom? .none t).map (l.tokens ++ ·) := by
  cases l with
  | blank c hc =>
    rw [text, List.singleton_append, scanFrom?_blank hc]
    exact (Option.map_id_apply ..).symm
  | sign c hc => exact scanFrom?_sign hc t
  | number n => exact scanFrom?_numeral n h
  | name x => exact scanFrom?_name x h
  | literal quote raw read hquote hraw =>
    rw [text, List.cons_append, List.append_assoc, scanFrom?_quote hquote]
    exact scanFrom?_contents hquote hraw [] t

/-- A series of lexemes is scanned as their tokens, one after the other. -/
theorem IsSeries.scanFrom?_eq {ls : List Lexeme} (h : IsSeries ls) :
    scanFrom? .none (ls.flatMap text) = some (ls.flatMap tokens) := by
  induction ls with
  | nil => rfl
  | cons l ls ih =>
    rw [List.flatMap_cons, scanFrom?_text_append h.1, ih h.2]
    rfl

end Lexeme

/-! ## Finding the lexemes -/

/-- What a character between tokens begins, by its kind. -/
theorem start?_cases {c : Char} {tokens : List Token} {pending : Pending}
    (h : Pending.start? c = some (tokens, pending)) :
    Text.isBlank c ∧ tokens = [] ∧ pending = .none ∨
      Text.isQuote c ∧ tokens = [] ∧ pending = .literal c [] ∨
      Pending.isNumberChar c ∧ tokens = [] ∧ pending = .number [c] ∨
      Text.isNameStart c ∧ tokens = [] ∧ pending = .name [c] ∨
      isSign c ∧ tokens = [.sign c] ∧ pending = .none := by
  unfold Pending.start? at h
  split at h
  · cases h
    exact .inl ⟨‹_›, rfl, rfl⟩
  split at h
  · cases h
    exact .inr (.inl ⟨‹_›, rfl, rfl⟩)
  split at h
  · cases h
    exact .inr (.inr (.inl ⟨‹_›, rfl, rfl⟩))
  split at h
  · cases h
    exact .inr (.inr (.inr (.inl ⟨‹_›, rfl, rfl⟩)))
  split at h
  · cases h
    exact .inr (.inr (.inr (.inr ⟨‹_›, rfl, rfl⟩)))
  · cases h

/-- A literal that is accepted is closed. Behind a backslash one more character comes first. -/
theorem exists_contents_of_scanFrom? {quote : Char} (hquote : Text.isQuote quote) (t : Text) :
    (∀ read, (scanFrom? (.literal quote read) t).isSome →
      ∃ raw u rest, t = raw ++ quote :: rest ∧ Contents quote raw u) ∧
    ∀ read, (scanFrom? (.escape quote read) t).isSome →
      ∃ c raw u rest, t = c :: (raw ++ quote :: rest) ∧ Contents quote raw u := by
  induction t with
  | nil =>
    constructor
    · intro read h
      cases h
    · intro read h
      cases h
  | cons c t ih =>
    constructor
    · intro read h
      by_cases hc : c = quote
      · exact ⟨[], [], t, by rw [hc]; rfl, .nil⟩
      by_cases hescape : c = '\\'
      · subst hescape
        rw [scanFrom?_backslash hquote] at h
        obtain ⟨d, raw, u, rest, rfl, hraw⟩ := ih.2 read h
        -- both kinds of escapes are contents, they only stand for different texts
        by_cases hd : d = quote ∨ d = '\\'
        · exact ⟨'\\' :: d :: raw, d :: u, rest, rfl, .dropped hd hraw⟩
        · exact ⟨'\\' :: d :: raw, '\\' :: d :: u, rest, rfl, .kept (not_or.1 hd).1
            (not_or.1 hd).2 hraw⟩
      · have hnext : (scanFrom? (.literal quote (c :: read)) t).isSome := by
          rw [scanFrom?, Pending.feed?, if_neg (by simpa using hc),
            if_neg (by simpa using hescape)] at h
          simpa using h
        obtain ⟨raw, u, rest, rfl, hraw⟩ := ih.1 _ hnext
        exact ⟨c :: raw, c :: u, rest, rfl, .plain hc hescape hraw⟩
    · intro read h
      -- what has been read so far does not matter, the scan is inside the literal again
      have hnext : ∃ read', (scanFrom? (.literal quote read') t).isSome := by
        rw [scanFrom?, Pending.feed?] at h
        split at h
        · exact ⟨_, by simpa using h⟩
        · exact ⟨_, by simpa using h⟩
      obtain ⟨read', hnext⟩ := hnext
      obtain ⟨raw, u, rest, rfl, hraw⟩ := ih.1 read' hnext
      exact ⟨c, raw, u, rest, rfl, hraw⟩

/-- Whatever is accepted begins with a lexeme, and the rest is accepted too. -/
theorem exists_lexeme_of_scanFrom? {c : Char} {t : Text} {tokens : List Token}
    (h : scanFrom? .none (c :: t) = some tokens) :
    ∃ (l : Lexeme) (rest : Text) (others : List Token), c :: t = l.text ++ rest ∧
      l.EndsBefore rest ∧ rest.length ≤ t.length ∧ scanFrom? .none rest = some others ∧
      tokens = l.tokens ++ others := by
  simp only [scanFrom?, Pending.feed?, Option.bind_eq_bind, Option.bind_eq_some_iff] at h
  obtain ⟨⟨started, pending⟩, hstart, others, hothers, htokens⟩ := h
  cases htokens
  -- the first character decides which kind of lexeme begins
  obtain ⟨hc, rfl, rfl⟩ | ⟨hc, rfl, rfl⟩ | ⟨hc, rfl, rfl⟩ | ⟨hc, rfl, rfl⟩ | ⟨hc, rfl, rfl⟩ :=
    start?_cases hstart
  · exact ⟨.blank c hc, t, others, rfl, trivial, Nat.le_refl _, hothers, rfl⟩
  · obtain ⟨raw, read, rest, rfl, hraw⟩ := (exists_contents_of_scanFrom? hc t).1 [] (hothers ▸ rfl)
    rw [scanFrom?_contents hc hraw, Option.map_eq_some_iff] at hothers
    obtain ⟨others, hothers, rfl⟩ := hothers
    exact ⟨.literal c raw read hc hraw, rest, others, by simp [Lexeme.text],
      trivial, by simp; omega, hothers, rfl⟩
  · obtain ⟨run, rest, rfl, hrun, hnext⟩ := Text.exists_run Pending.isNumberChar t
    rw [scanFrom?_number_body [c] hrun hnext, Option.bind_eq_some_iff] at hothers
    obtain ⟨x, hx, hbehind⟩ := hothers
    obtain ⟨others, hothers, rfl⟩ := Option.map_eq_some_iff.1 hbehind
    exact ⟨.number ⟨c :: run, x, List.forall_mem_cons.2 ⟨hc, hrun⟩, hx⟩, rest, others, rfl,
      hnext, by simp, hothers, rfl⟩
  · obtain ⟨run, rest, rfl, hrun, hnext⟩ := Text.exists_run Text.isNameChar t
    rw [scanFrom?_name_body [c] hrun hnext, Option.map_eq_some_iff] at hothers
    obtain ⟨others, hothers, rfl⟩ := hothers
    have hname : Text.isName (c :: run) := by
      rw [Text.isName, hc, Bool.true_and, List.all_eq_true]
      exact hrun
    exact ⟨.name ⟨c :: run, hname⟩, rest, others, rfl, hnext, by simp, hothers, rfl⟩
  · exact ⟨.sign c hc, t, others, rfl, trivial, Nat.le_refl _, hothers, rfl⟩

/-- The lexemes are taken off the front one by one, so the induction is on the length of the
text. -/
theorem exists_series_of_scanFrom? {t : Text} {tokens : List Token}
    (h : scanFrom? .none t = some tokens) :
    ∃ ls, Lexeme.IsSeries ls ∧ t = ls.flatMap Lexeme.text ∧ tokens = ls.flatMap Lexeme.tokens := by
  induction hlength : t.length using Nat.strongRecOn generalizing t tokens with
  | ind length ih =>
    cases t with
    | nil =>
      cases h
      exact ⟨[], trivial, rfl, rfl⟩
    | cons c t =>
      obtain ⟨l, rest, others, htext, hends, hle, hothers, rfl⟩ := exists_lexeme_of_scanFrom? h
      rw [List.length_cons] at hlength
      obtain ⟨ls, hls, rfl, rfl⟩ := ih rest.length (by omega) hothers rfl
      exact ⟨l :: ls, ⟨hends, hls⟩, htext, rfl⟩

/-- The scanner accepts a text exactly if it is a series of lexemes, and then it gives their
tokens. -/
theorem scanFrom?_eq_some_iff {t : Text} {tokens : List Token} :
    scanFrom? .none t = some tokens ↔
      ∃ ls, Lexeme.IsSeries ls ∧ t = ls.flatMap Lexeme.text ∧
        tokens = ls.flatMap Lexeme.tokens := by
  constructor
  · exact exists_series_of_scanFrom?
  · rintro ⟨ls, hls, rfl, rfl⟩
    exact hls.scanFrom?_eq

/-! ## Expressions that are one literal -/

namespace Lexeme

/-- Lexemes without a token are blanks. -/
theorem isBlank_of_tokens_eq_nil {ls : List Lexeme} (h : ls.flatMap tokens = []) :
    ∀ c ∈ ls.flatMap text, Text.isBlank c := by
  intro c hc
  obtain ⟨l, hl, hc⟩ := List.mem_flatMap.1 hc
  have hnone := List.flatMap_eq_nil_iff.1 h l hl
  cases l with
  | blank d hd => exact List.mem_singleton.1 hc ▸ hd
  | _ => cases hnone

/-- Lexemes with one token, a literal, are that literal between blanks. -/
theorem isLiteral_of_tokens_eq {ls : List Lexeme} {read : Text}
    (h : ls.flatMap tokens = [.literal read]) :
    Text.IsLiteral (Text.trim (ls.flatMap text)) read := by
  induction ls with
  | nil => cases h
  | cons l ls ih =>
    rw [List.flatMap_cons] at h ⊢
    cases l with
    | blank c hc =>
      rw [text, Text.trim_blank_append (List.forall_mem_singleton.2 hc)]
      exact ih h
    | literal quote raw read' hquote hraw =>
      obtain ⟨hread, hnone⟩ := List.cons.inj h
      cases hread
      have hliteral : Text.IsLiteral (quote :: (raw ++ [quote])) read :=
        ⟨quote, raw, hquote, rfl, hraw⟩
      rw [Text.trim_append_blank (isBlank_of_tokens_eq_nil hnone), text, hliteral.trim_eq]
      exact hliteral
    | _ => cases h

/-- Blanks as lexemes. -/
theorem exists_blanks {t : Text} (h : ∀ c ∈ t, Text.isBlank c) :
    ∃ ls : List Lexeme, t = ls.flatMap text ∧ ls.flatMap tokens = [] ∧
      ∀ more, IsSeries more → IsSeries (ls ++ more) := by
  induction t with
  | nil => exact ⟨[], rfl, rfl, fun _ hmore => hmore⟩
  | cons c t ih =>
    obtain ⟨hc, ht⟩ := List.forall_mem_cons.1 h
    obtain ⟨ls, rfl, htokens, hseries⟩ := ih ht
    exact ⟨.blank c hc :: ls, rfl, htokens, fun more hmore => ⟨trivial, hseries more hmore⟩⟩

end Lexeme

/-- A text is scanned as one literal exactly if it is one, apart from blanks around it. -/
theorem scan?_eq_literal_iff {t read : Text} :
    scan? t = some [.literal read] ↔ Text.IsLiteral (Text.trim t) read := by
  have hscan : scan? t = some [.literal read] ↔ scanFrom? .none t = some [.literal read] := by
    simp [scan?, Option.filter_eq_some_iff]
  rw [hscan, scanFrom?_eq_some_iff]
  constructor
  · rintro ⟨ls, -, rfl, htokens⟩
    exact Lexeme.isLiteral_of_tokens_eq htokens.symm
  · rintro ⟨quote, raw, hquote, htrim, hraw⟩
    -- the blanks that were trimmed off are lexemes without tokens
    obtain ⟨left, right, htext, hleft, hright⟩ := Text.exists_eq_trim t
    obtain ⟨before, rfl, hbefore, hseries⟩ := Lexeme.exists_blanks hleft
    obtain ⟨behind, rfl, hbehind, hseries'⟩ := Lexeme.exists_blanks hright
    have hnil : Lexeme.IsSeries behind := by
      have happend := hseries' [] trivial
      rwa [List.append_nil] at happend
    refine ⟨before ++ .literal quote raw read hquote hraw :: behind, hseries _ ⟨trivial, hnil⟩, ?_,
      ?_⟩
    · rw [htext, htrim, List.append_assoc, List.flatMap_append]
      rfl
    · rw [List.flatMap_append, hbefore, List.flatMap_cons, hbehind]
      rfl

end Token

/-- **The writer and both readers of literals agree.** What is written for a text is decoded to it,
and scanned as one literal token with it. A text is decoded exactly if it is scanned as one literal
token, and to the same; and that is the case exactly if, blanks around it apart, it is a literal in
double or in single quotes. -/
theorem literal_readers_agree :
    (∀ t, Text.Literal.decode? (Text.Literal.encode t) = some t ∧
      Token.scan? (Text.Literal.encode t) = some [.literal t]) ∧
    ∀ t read, (Text.Literal.decode? t = some read ↔ Token.scan? t = some [.literal read]) ∧
      (Text.Literal.decode? t = some read ↔ Text.IsLiteral (Text.trim t) read) := by
  constructor
  · intro t
    have hliteral := Text.Literal.isLiteral_encode t
    rw [← hliteral.trim_eq] at hliteral
    exact ⟨Text.Literal.decode?_eq_some_iff.2 hliteral, Token.scan?_eq_literal_iff.2 hliteral⟩
  · intro t read
    exact ⟨Text.Literal.decode?_eq_some_iff.trans Token.scan?_eq_literal_iff.symm,
      Text.Literal.decode?_eq_some_iff⟩

end TapScript
