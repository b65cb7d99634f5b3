import Wordsheet.Proofs.Command.RoundTrip

/-! # Bare words

At one place of a line at most one keyword is read. A keyword is read in a text and in a longer one
alike if the longer one goes on with a blank. A word that stands bare between blanks is read as the
same name as between double quotes.
-/

namespace Wordsheet.Command

open Text

variable {c : Char} {cs rest : List Char}

/-! ## Blanks and letters -/

def blankCodes : List Nat := [
    9, 10, 11, 12, 13, 28, 29, 30, 31, 32, 0x85, 0xa0, 0x1680, 0x2000, 0x2001, 0x2002, 0x2003,
    0x2004, 0x2005, 0x2006, 0x2007, 0x2008, 0x2009, 0x200a, 0x2028, 0x2029, 0x202f, 0x205f, 0x3000]

theorem toNat_mem_blankCodes (h : isBlank c = true) : c.toNat ∈ blankCodes := by
  simp only [isBlank, Bool.or_eq_true, Bool.and_eq_true, decide_eq_true_eq, beq_iff_eq] at h
  have listed : ∀ n ∈ List.range' 9 5 ++ List.range' 28 5 ++ List.range' 0x2000 11 ++
      [0x85, 0xa0, 0x1680, 0x2028, 0x2029, 0x202f, 0x205f, 0x3000], n ∈ blankCodes := by decide
  refine listed _ ?_
  simp only [List.mem_append, List.mem_range'_1, List.mem_cons, List.not_mem_nil, or_false]
  omega

theorem isWordChar_of_isBlank (h : isBlank c = true) : isWordChar c = false := by
  have all : ∀ n ∈ blankCodes, isWordChar (Char.ofNat n) = false := by decide +kernel
  have hc := all c.toNat (toNat_mem_blankCodes h)
  rwa [Char.ofNat_toNat] at hc

theorem isBlank_of_isGap (h : isGap c = true) : isBlank c = true := by
  rcases eq_of_isGap h with rfl | rfl | rfl | rfl | rfl <;> rfl

/-- The characters that stand for a small letter: those with that small form, and three others. -/
theorem eq_of_isLetter {small : Char} (h : isLetter small c = true) :
    c.toLower = small ∨ (small = 's' ∧ c = 'ſ') ∨ (small = 'i' ∧ (c = 'ı' ∨ c = 'İ')) := by
  simpa [isLetter, or_assoc] using h

theorem isWordChar_of_isLetter {small : Char} (hs : small.isLower = true)
    (h : isLetter small c = true) : isWordChar c = true := by
  rcases eq_of_isLetter h with rfl | ⟨_, rfl⟩ | ⟨_, rfl | rfl⟩
  · exact isWordChar_of_isLower hs
  · rfl
  · rfl
  · rfl

theorem isLetter_of_isBlank {small : Char} (hs : small.isLower = true) (h : isBlank c = true) :
    isLetter small c = false := by
  rw [← Bool.not_eq_true]
  intro hl
  have hw := isWordChar_of_isLetter hs hl
  rw [isWordChar_of_isBlank h] at hw
  cases hw

theorem isLetter_unique {small other : Char} (hs : small.isLower = true)
    (ho : other.isLower = true) (h : isLetter small c = true) (h' : isLetter other c = true) :
    small = other := by
  rcases eq_of_isLetter h with rfl | ⟨rfl, rfl⟩ | ⟨rfl, rfl | rfl⟩
  · rw [isLetter_of_isLower hs] at h'
    exact eq_of_beq h'
  all_goals
    rcases eq_of_isLetter h' with rfl | ⟨rfl, _⟩ | ⟨rfl, _⟩
    all_goals first | rfl | exact absurd ho (by decide) | contradiction

/-! ## Keywords -/

def Apart (cs : List Char) : Prop :=
  ∀ c ∈ cs.head?, isBlank c = true

theorem atWordEnd_of_apart (h : Apart cs) : atWordEnd cs = true := by
  cases cs with
  | nil => rfl
  | cons c cs => rw [atWordEnd, isWordChar_of_isBlank (h c rfl), Bool.not_false]

theorem afterLetters?_unique {letters others left right : List Char}
    (small : ∀ letter ∈ letters, letter.isLower = true)
    (small' : ∀ letter ∈ others, letter.isLower = true)
    (h : afterLetters? letters cs = some left) (ends : atWordEnd left = true)
    (h' : afterLetters? others cs = some right) (ends' : atWordEnd right = true) :
    letters = others := by
  induction letters generalizing others cs with
  | nil =>
      cases others with
      | nil => rfl
      | cons other others =>
          rw [afterLetters?, Option.some.injEq] at h
          subst h
          cases cs with
          | nil => cases h'
          | cons c cs =>
              rw [afterLetters?] at h'
              split at h'
              · next hl =>
                  have hlow := small' other List.mem_cons_self
                  rw [atWordEnd, isWordChar_of_isLetter hlow hl] at ends
                  cases ends
              · cases h'
  | cons letter letters ih =>
      cases cs with
      | nil => cases h
      | cons c cs =>
          rw [afterLetters?] at h
          split at h
          · next hl =>
              have hlow := small letter List.mem_cons_self
              cases others with
              | nil =>
                  cases h'
                  rw [atWordEnd, isWordChar_of_isLetter hlow hl] at ends'
                  cases ends'
              | cons other others =>
                  rw [afterLetters?] at h'
                  split at h'
                  · next ho =>
                      rw [isLetter_unique hlow (small' other List.mem_cons_self) hl ho,
                        ih (fun l hm => small l (List.mem_cons_of_mem _ hm))
                          (fun l hm => small' l (List.mem_cons_of_mem _ hm)) h h']
                  · cases h'
          · cases h

variable {keyword other : String}

/-- At one place one keyword is read at most. -/
theorem after?_unique {left right : List Char} (hk : isKeyword keyword = true)
    (ho : isKeyword other = true) (h : after? keyword cs = some left)
    (h' : after? other cs = some right) : keyword = other := by
  obtain ⟨hl, ends⟩ := Option.filter_eq_some_iff.1 h
  obtain ⟨hr, ends'⟩ := Option.filter_eq_some_iff.1 h'
  exact String.toList_inj.1
    (afterLetters?_unique (isKeyword_iff.1 hk).2 (isKeyword_iff.1 ho).2 hl ends hr ends')

theorem after?_eq_none {left : List Char} (hk : isKeyword keyword = true)
    (ho : isKeyword other = true) (hne : other ≠ keyword) (h : after? keyword cs = some left) :
    after? other cs = none := by
  rw [Option.eq_none_iff_forall_ne_some]
  intro right h'
  exact hne (after?_unique ho hk h' h)

theorem afterLetters?_append {letters : List Char}
    (small : ∀ letter ∈ letters, letter.isLower = true) (apart : Apart rest) (cs : List Char) :
    afterLetters? letters (cs ++ rest) = (afterLetters? letters cs).map (· ++ rest) := by
  induction letters generalizing cs with
  | nil => rfl
  | cons letter letters ih =>
      obtain ⟨hl, small⟩ := List.forall_mem_cons.1 small
      cases cs with
      | nil =>
          cases rest with
          | nil => rfl
          | cons c rest => simp [afterLetters?, isLetter_of_isBlank hl (apart c rfl)]
      | cons c cs =>
          rw [List.cons_append, afterLetters?, afterLetters?, ih small]
          split <;> rfl

theorem atWordEnd_append (apart : Apart rest) (cs : List Char) :
    atWordEnd (cs ++ rest) = atWordEnd cs := by
  cases cs with
  | nil => exact atWordEnd_of_apart apart
  | cons c cs => rfl

/-- What is more than a gap does not hide what follows it. -/
theorem skipGap_append_of_ne (h : skipGap cs ≠ []) (rest : List Char) :
    skipGap (cs ++ rest) = skipGap cs ++ rest := by
  rw [skipGap, skipGap, List.dropWhile_append, if_neg]
  simpa [skipGap] using h

theorem after?_append (hk : isKeyword keyword = true) (word : skipGap cs ≠ [])
    (apart : Apart rest) :
    after? keyword (cs ++ rest) = (after? keyword cs).map (· ++ rest) := by
  rw [after?, after?, skipGap_append_of_ne word,
    afterLetters?_append (isKeyword_iff.1 hk).2 apart]
  cases afterLetters? keyword.toList (skipGap cs) with
  | none => rfl
  | some left =>
      rw [Option.map_some, Option.filter_some, Option.filter_some, atWordEnd_append apart]
      split <;> rfl

theorem afterPlural?_append (hk : isKeyword keyword = true) (word : skipGap cs ≠ [])
    (apart : Apart rest) :
    afterPlural? keyword (cs ++ rest) = (afterPlural? keyword cs).map (· ++ rest) := by
  rw [afterPlural?, afterPlural?, after?_append (isKeyword_plural hk) word apart,
    after?_append hk word apart]
  cases after? (keyword ++ "s") cs <;> rfl

theorem linkComes_append (word : skipGap cs ≠ []) (apart : Apart rest) :
    linkComes (cs ++ rest) = linkComes cs := by
  have hlink (keyword : String) (hk : isKeyword keyword = true) :
      (after? keyword (cs ++ rest)).isSome = (after? keyword cs).isSome := by
    rw [after?_append hk word apart, Option.isSome_map]
  simp only [linkComes, List.any_cons, List.any_nil, hlink "to" rfl, hlink "with" rfl,
    hlink "as" rfl]

/-- The first keyword of a line decides how it is read. -/
theorem parse?_of_after? {line : String} {read : List Char → Option Command}
    (known : (keyword, read) ∈ readers) (h : after? keyword line.toList = some rest) :
    parse? line = read rest := by
  have keywords : ∀ entry ∈ readers, isKeyword entry.1 = true := by decide
  have distinct : (readers.map Prod.fst).Nodup := by decide
  rw [parse?, findSome?_of_mem distinct known]
  · simp only [h, Option.bind_some]
  · rintro ⟨other, read'⟩ he hne
    simp only [after?_eq_none (keywords _ known) (keywords _ he) hne h, Option.bind_none]

/-! ## Names -/

/-- A text that may stand bare as a name: not empty, without blanks and double quotes. -/
def BareWord (word : String) : Prop :=
  word.toList ≠ [] ∧ ∀ c ∈ word.toList, isBare c = true

variable {word : String} {blanks : List Char}

theorem isBare_of_isBlank (h : isBlank c = true) : isBare c = false := by
  rw [isBare, h]
  rfl

theorem not_isBlank_of_isBare (h : isBare c = true) : isBlank c = false := by
  rw [← Bool.not_eq_true]
  intro hb
  rw [isBare_of_isBlank hb] at h
  cases h

theorem not_isGap_of_not_isBlank (h : isBlank c = false) : isGap c = false := by
  rw [← Bool.not_eq_true]
  intro hg
  rw [isBlank_of_isGap hg] at h
  cases h

theorem BareWord.closed (bare : BareWord word) : '"' ∉ word.toList := by
  intro hq
  exact absurd (bare.2 _ hq) (by decide)

theorem BareWord.one_line (bare : BareWord word) : '\n' ∉ word.toList := by
  intro hn
  exact absurd (bare.2 _ hn) (by decide)

theorem bareOrQuoted?_cons (h : c ≠ '"') (cs : List Char) :
    bareOrQuoted? (c :: cs) =
      if isBare c then some (String.ofList (c :: cs.takeWhile isBare), cs.dropWhile isBare)
      else none := by
  unfold bareOrQuoted?
  split
  · next he => cases he
  · next he => exact absurd (List.cons.inj he).1 h
  · next he =>
      cases he
      rfl

theorem bareOrQuoted?_cons_of_isBare (h : isBare c = true) (cs : List Char) :
    bareOrQuoted? (c :: cs) =
      some (String.ofList (c :: cs.takeWhile isBare), cs.dropWhile isBare) := by
  have hne : c ≠ '"' := by
    rintro rfl
    exact absurd h (by decide)
  rw [bareOrQuoted?_cons hne, if_pos h]

theorem bareOrQuoted?_cons_of_isBlank (h : isBlank c = true) (cs : List Char) :
    bareOrQuoted? (c :: cs) = none := by
  have hne : c ≠ '"' := by
    rintro rfl
    exact absurd h (by decide)
  rw [bareOrQuoted?_cons hne, isBare_of_isBlank h]
  rfl

theorem takeWhile_isBare_of_apart (apart : Apart rest) : rest.takeWhile isBare = [] := by
  cases rest with
  | nil => rfl
  | cons c rest => exact List.takeWhile_cons_of_neg (by simp [isBare_of_isBlank (apart c rfl)])

theorem dropWhile_isBare_of_apart (apart : Apart rest) : rest.dropWhile isBare = rest := by
  cases rest with
  | nil => rfl
  | cons c rest => exact List.dropWhile_cons_of_neg (by simp [isBare_of_isBlank (apart c rfl)])

theorem bareOrQuoted?_word (bare : BareWord word) (apart : Apart rest) :
    bareOrQuoted? (word.toList ++ rest) = some (word, rest) := by
  obtain ⟨nonempty, all⟩ := bare
  obtain ⟨c, cs, hword⟩ := List.exists_cons_of_ne_nil nonempty
  rw [hword] at all
  obtain ⟨hc, hcs⟩ := List.forall_mem_cons.1 all
  rw [hword, List.cons_append, bareOrQuoted?_cons_of_isBare hc,
    List.takeWhile_append_of_pos hcs, List.dropWhile_append_of_pos hcs,
    takeWhile_isBare_of_apart apart, dropWhile_isBare_of_apart apart, List.append_nil, ← hword,
    String.ofList_toList]

theorem bareOrQuoted?_append {left : List Char} (h : bareOrQuoted? cs = some (word, left))
    (apart : Apart rest) : bareOrQuoted? (cs ++ rest) = some (word, left ++ rest) := by
  unfold bareOrQuoted? at h
  split at h
  · cases h
  · next cs =>
      rw [quotedName?] at h
      split at h
      · cases h
      · next hdrop =>
          cases h
          have inside : cs.dropWhile (· != '"') ≠ [] := by simp [hdrop]
          change quotedName? (cs ++ rest) = _
          rw [quotedName?, List.dropWhile_append, if_neg (by simpa using inside), hdrop,
            List.cons_append, List.takeWhile_append, if_neg]
          intro hlen
          have hsplit := congrArg List.length (List.takeWhile_append_dropWhile
            (p := (· != '"')) (l := cs))
          rw [hdrop, List.length_append, List.length_cons] at hsplit
          omega
  · next c cs _ =>
      split at h
      · next hc =>
          cases h
          rw [List.cons_append, bareOrQuoted?_cons_of_isBare hc]
          by_cases hall : cs.dropWhile isBare = []
          · have hcs := List.dropWhile_eq_nil_iff.1 hall
            rw [List.takeWhile_append_of_pos hcs, List.dropWhile_append_of_pos hcs, hall,
              takeWhile_isBare_of_apart apart, dropWhile_isBare_of_apart apart, List.append_nil,
              List.takeWhile_eq_self_iff.2 hcs, List.nil_append]
          · rw [List.dropWhile_append, if_neg (by simpa using hall), List.takeWhile_append, if_neg]
            intro hlen
            have hsplit := congrArg List.length (List.takeWhile_append_dropWhile
              (p := isBare) (l := cs))
            have hpos := List.length_pos_iff.2 hall
            rw [List.length_append] at hsplit
            omega
      · cases h

theorem skipGap_ne_nil_of_name? {left : List Char} (h : name? cs = some (word, left)) :
    skipGap cs ≠ [] := by
  intro hnil
  rw [name?, hnil] at h
  cases h

theorem name?_append {left : List Char} (h : name? cs = some (word, left)) (apart : Apart rest) :
    name? (cs ++ rest) = some (word, left ++ rest) := by
  rw [name?, skipGap_append_of_ne (skipGap_ne_nil_of_name? h)]
  exact bareOrQuoted?_append h apart

/-- After blanks that are no gap no name is read. -/
theorem name?_blanks (blank : ∀ c ∈ blanks, isBlank c = true) (wide : skipGap blanks ≠ [])
    (cs : List Char) : name? (blanks ++ cs) = none := by
  obtain ⟨b, left, hskip⟩ := List.exists_cons_of_ne_nil wide
  have hb : isBlank b = true := blank b
    ((List.dropWhile_sublist (p := isGap)).mem (hskip ▸ List.mem_cons_self : b ∈ skipGap blanks))
  rw [name?, skipGap_append_of_ne wide, hskip, List.cons_append, bareOrQuoted?_cons_of_isBlank hb]

theorem skipGap_word (bare : BareWord word) (rest : List Char) :
    skipGap (word.toList ++ rest) = word.toList ++ rest := by
  obtain ⟨c, cs, hword⟩ := List.exists_cons_of_ne_nil bare.1
  have hc := bare.2 c (hword ▸ List.mem_cons_self)
  rw [hword, List.cons_append]
  exact skipGap_cons (not_isGap_of_not_isBlank (not_isBlank_of_isBare hc)) _

theorem name?_word (bare : BareWord word) (apart : Apart rest)
    (hgap : ∀ c ∈ blanks, isGap c = true) :
    name? (blanks ++ (word.toList ++ rest)) = some (word, rest) := by
  rw [name?, skipGap_append hgap, skipGap_word bare, bareOrQuoted?_word bare apart]

/-- A word is the same name bare and between double quotes. -/
theorem name?_word_eq_inQuotes (bare : BareWord word) (apart : Apart rest)
    (blank : ∀ c ∈ blanks, isBlank c = true) :
    name? (blanks ++ (word.toList ++ rest)) = name? (blanks ++ (inQuotes word ++ rest)) := by
  by_cases wide : skipGap blanks = []
  · have hgap : ∀ c ∈ blanks, isGap c = true := List.dropWhile_eq_nil_iff.1 wide
    rw [name?_inQuotes hgap bare.closed, name?_word bare apart hgap]
  · rw [name?_blanks blank wide, name?_blanks blank wide]

/-- Behind blanks that are no gap no keyword is read. -/
theorem after?_blanks (hk : isKeyword keyword = true) (blank : ∀ c ∈ blanks, isBlank c = true)
    (wide : skipGap blanks ≠ []) (cs : List Char) : after? keyword (blanks ++ cs) = none := by
  obtain ⟨b, left, hskip⟩ := List.exists_cons_of_ne_nil wide
  have hb : isBlank b = true := blank b
    ((List.dropWhile_sublist (p := isGap)).mem (hskip ▸ List.mem_cons_self : b ∈ skipGap blanks))
  obtain ⟨nonempty, lower⟩ := isKeyword_iff.1 hk
  obtain ⟨letter, letters, hletters⟩ := List.exists_cons_of_ne_nil nonempty
  have hl : letter.isLower = true := lower letter (hletters ▸ List.mem_cons_self)
  rw [after?, skipGap_append_of_ne wide, hskip, List.cons_append, hletters, afterLetters?,
    isLetter_of_isBlank hl hb]
  rfl

theorem after?_blanks_inQuotes (hk : isKeyword keyword = true)
    (blank : ∀ c ∈ blanks, isBlank c = true) (text : String) (rest : List Char) :
    after? keyword (blanks ++ (inQuotes text ++ rest)) = none := by
  by_cases wide : skipGap blanks = []
  · exact after?_inQuotes hk (List.dropWhile_eq_nil_iff.1 wide) text rest
  · exact after?_blanks hk blank wide _

/-! ## Rows of names -/

theorem items?_of_blank (h : trimStart cs = []) : items? cs = some [] := by
  rw [items?]
  split
  · rfl
  · next hs =>
      rw [h] at hs
      cases hs

theorem items?_of_trimStart {left : List Char} (h : trimStart cs = c :: left) :
    items? cs = (bareOrQuoted? (c :: left)).bind fun read => (items? read.2).map (read.1 :: ·) := by
  rw [items?]
  split
  · next hs =>
      rw [h] at hs
      cases hs
  · next hs =>
      cases h.symm.trans hs
      split <;> next hr => rw [hr]; rfl

theorem items?_blanks_append (blank : ∀ c ∈ blanks, isBlank c = true) (cs : List Char) :
    items? (blanks ++ cs) = items? cs := by
  have htrim : trimStart (blanks ++ cs) = trimStart cs := List.dropWhile_append_of_pos blank
  cases h : trimStart cs with
  | nil => rw [items?_of_blank h, items?_of_blank (htrim.trans h)]
  | cons c left => rw [items?_of_trimStart h, items?_of_trimStart (htrim.trans h)]

theorem items?_word (bare : BareWord word) (apart : Apart rest) :
    items? (word.toList ++ rest) = (items? rest).map (word :: ·) := by
  obtain ⟨c, cs, hword⟩ := List.exists_cons_of_ne_nil bare.1
  have hc := not_isBlank_of_isBare (bare.2 c (hword ▸ List.mem_cons_self))
  have htrim : trimStart (word.toList ++ rest) = c :: (cs ++ rest) := by
    rw [hword, List.cons_append]
    exact trimStart_cons_of_not_blank hc
  rw [items?_of_trimStart htrim, ← List.cons_append, ← hword, bareOrQuoted?_word bare apart]
  rfl

theorem items?_append {held : List String} (h : items? cs = some held) (apart : Apart rest) :
    items? (cs ++ rest) = (items? rest).map (held ++ ·) := by
  fun_induction items? cs generalizing held with
  | case1 cs hs =>
      cases h
      have blank : ∀ c ∈ cs, isBlank c = true :=
        List.all_eq_true.1 ((trimStart_eq_nil_iff cs).1 hs)
      rw [items?_blanks_append blank]
      cases items? rest <;> rfl
  | case2 => cases h
  | case3 cs c left hs item after hread ih =>
      obtain ⟨more, hmore, rfl⟩ := Option.map_eq_some_iff.1 h
      have htrim : trimStart (cs ++ rest) = c :: (left ++ rest) := by
        rw [trimStart, List.dropWhile_append, ← trimStart, hs]
        rfl
      have hread' := bareOrQuoted?_append hread apart
      rw [List.cons_append] at hread'
      rw [items?_of_trimStart htrim, hread', Option.bind_some, ih hmore, Option.map_map]
      rfl

/-! ## Free text -/

section Lines

variable {front written : List Char}

theorem bne_of_flat (flat : '\n' ∉ cs) : ∀ c ∈ cs, (c != '\n') = true := by
  intro c hc
  rw [bne_iff_ne]
  rintro rfl
  exact flat hc

/-- What a line holds where free text starts: nothing that is a blank or goes beyond the line. -/
def startsText (front rest : List Char) : Bool :=
  ((skipGap front).head?.all fun c => !isBlank c) && !(skipGap front).contains '\n'
    && (rest.dropWhile (· != '\n')).all isGap

/-- Whether free text with a word in it can be read does not depend on the word. -/
theorem remainder?_append (hw : written ≠ []) (visible : ∀ c ∈ written.head?, isBlank c = false)
    (flat : '\n' ∉ written) (rest : List Char) :
    remainder? (front ++ (written ++ rest)) =
      if startsText front rest then
        some (skipGap front ++ (written ++ rest.takeWhile (· != '\n')))
      else none := by
  obtain ⟨x, xs, rfl⟩ := List.exists_cons_of_ne_nil hw
  have hx : isBlank x = false := visible x rfl
  have hline := bne_of_flat flat
  have hxs : ∀ c ∈ xs, (c != '\n') = true := fun c hc => hline c (List.mem_cons_of_mem x hc)
  cases hfront : skipGap front with
  | nil =>
      have hgap : ∀ c ∈ front, isGap c = true := List.dropWhile_eq_nil_iff.1 hfront
      have hskip : skipGap (front ++ (x :: xs ++ rest)) = x :: (xs ++ rest) := by
        rw [skipGap_append hgap]
        exact skipGap_cons (not_isGap_of_not_isBlank hx) _
      rw [remainder?, hskip]
      simp only [startsText, hfront, hx, List.dropWhile_append_of_pos hxs,
        List.takeWhile_append_of_pos hxs]
      cases (rest.dropWhile (· != '\n')).all isGap <;> rfl
  | cons c left =>
      have hne : skipGap front ≠ [] := by simp [hfront]
      have hc : (c != '\n') = true := by
        have hg : isGap c = false := by
          have := List.head?_dropWhile_not isGap front
          rw [← skipGap, hfront] at this
          simpa using this
        rw [bne_iff_ne]
        rintro rfl
        exact absurd hg (by decide)
      have hskip : skipGap (front ++ (x :: xs ++ rest)) = c :: (left ++ (x :: xs ++ rest)) := by
        rw [skipGap_append_of_ne hne, hfront, List.cons_append]
      rw [remainder?, hskip]
      by_cases broken : '\n' ∈ left
      · -- the word stands on a later line
        have hdrop : left.dropWhile (· != '\n') ≠ [] := by
          rw [Ne, List.dropWhile_eq_nil_iff]
          intro all
          exact absurd (all _ broken) (by decide)
        have hall : ((left ++ (x :: xs ++ rest)).dropWhile (· != '\n')).all isGap = false := by
          rw [List.dropWhile_append, if_neg (by simpa using hdrop)]
          simp [not_isGap_of_not_isBlank hx]
        have hcontains : (c :: left).contains '\n' = true := by simp [broken]
        simp only [startsText, hfront, hall, hcontains, Bool.not_false, Bool.not_true, Bool.or_true,
          Bool.and_false, Bool.false_and, if_true, Bool.false_eq_true, if_false]
      · have hleft := bne_of_flat broken
        simp only [startsText, hfront, List.dropWhile_append_of_pos hleft,
          List.takeWhile_append_of_pos hleft, List.dropWhile_append_of_pos hline,
          List.takeWhile_append_of_pos hline]
        have hcontains : (c :: left).contains '\n' = false := by
          rw [bne_iff_ne] at hc
          rw [List.contains_cons, beq_eq_false_iff_ne.2 hc.symm, Bool.false_or]
          simpa using broken
        rw [hcontains]
        cases hb : isBlank c <;> cases (rest.dropWhile (· != '\n')).all isGap <;> simp [hb]

end Lines

theorem apart_takeWhile (apart : Apart rest) (p : Char → Bool) : Apart (rest.takeWhile p) := by
  cases rest with
  | nil => exact apart
  | cons c rest =>
      rw [List.takeWhile_cons]
      split
      · exact apart
      · exact nofun

theorem apart_append (nonempty : blanks ≠ []) (blank : ∀ c ∈ blanks, isBlank c = true)
    (cs : List Char) : Apart (blanks ++ cs) := by
  obtain ⟨b, left, rfl⟩ := List.exists_cons_of_ne_nil nonempty
  intro c hc
  exact blank c (by simp_all)

theorem items?_skipGap_append (cs rest : List Char) :
    items? (skipGap cs ++ rest) = items? (cs ++ rest) := by
  have hgap : ∀ c ∈ cs.takeWhile isGap, isBlank c = true := fun c hc =>
    isBlank_of_isGap (List.all_eq_true.1 List.all_takeWhile c hc)
  rw [skipGap, ← items?_blanks_append hgap, ← List.append_assoc,
    List.takeWhile_append_dropWhile]

/-- The names at the end of a line are the same with a word bare and between double quotes. -/
theorem lastItems?_word_eq_inQuotes {others : List Char} {held : List String}
    (bare : BareWord word) (apart : Apart rest) (nonempty : blanks ≠ [])
    (blank : ∀ c ∈ blanks, isBlank c = true) (complete : items? others = some held) :
    lastItems? (others ++ (blanks ++ (word.toList ++ rest))) =
      lastItems? (others ++ (blanks ++ (inQuotes word ++ rest))) := by
  have visible : ∀ c ∈ word.toList.head?, isBlank c = false := fun c hc =>
    not_isBlank_of_isBare (bare.2 c (List.mem_of_mem_head? hc))
  have flat : '\n' ∉ inQuotes word := by simpa [inQuotes] using bare.one_line
  have quoted : ∀ c ∈ (inQuotes word).head?, isBlank c = false := by
    rintro c ⟨⟩
    rfl
  have hrest := apart_takeWhile apart (· != '\n')
  -- both are read after the same names, and as the same name
  have hitems : items? (others ++ (blanks ++ (word.toList ++ rest.takeWhile (· != '\n')))) =
      items? (others ++ (blanks ++ (inQuotes word ++ rest.takeWhile (· != '\n')))) := by
    rw [items?_append complete (apart_append nonempty blank _),
      items?_append complete (apart_append nonempty blank _), items?_blanks_append blank,
      items?_inQuotes blank bare.closed, items?_word bare hrest]
  have hfront (written : List Char) :
      others ++ (blanks ++ written) = (others ++ blanks) ++ written :=
    (List.append_assoc ..).symm
  rw [hfront, hfront, lastItems?, lastItems?, remainder?_append bare.1 visible bare.one_line,
    remainder?_append (by simp [inQuotes]) quoted flat]
  split
  · rw [Option.bind_some, Option.bind_some, items?_skipGap_append, items?_skipGap_append,
      ← hfront, ← hfront, hitems]
  · rfl

theorem lastItems?_word (bare : BareWord word) : lastItems? (' ' :: word.toList) = some [word] := by
  have visible : ∀ c ∈ word.toList.head?, isBlank c = false := fun c hc =>
    not_isBlank_of_isBare (bare.2 c (List.mem_of_mem_head? hc))
  have hread := @remainder?_append [' '] _ bare.1 visible bare.one_line []
  have ended : Apart [] := nofun
  have hitems := items?_word bare ended
  rw [List.append_nil] at hread hitems
  have hstarts : startsText [' '] [] = true := rfl
  rw [lastItems?, ← List.singleton_append, hread, if_pos hstarts, Option.bind_some,
    items?_skipGap_append, List.takeWhile_nil, List.append_nil,
    items?_blanks_append (List.forall_mem_singleton.2 rfl), hitems, items?_of_blank rfl,
    Option.map_some]

end Wordsheet.Command
