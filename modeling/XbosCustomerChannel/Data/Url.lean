import XbosCustomerChannel.Data.Text
import XbosCustomerChannel.Data.Utf8

/-!
# URLs as Python takes them apart

`urlparse`, as far as scheme, network location, query and fragment go, and `urlencode` with its
inverse `parse_qs`. A network location can be refused for what is between its brackets, or for what
its characters look like when normalized; that is a parameter, as it takes tables of Unicode.

What was encoded is read back (`unquotePlus_quotePlus`, `queryValues_urlencode`), and what follows the
path of a URL is found where it was put (`urlparse_ok_iff`).
-/

namespace Data

namespace Url

/-! ## Taking apart -/

/-- The text before the first separator. -/
def before (sep : Char) (cs : List Char) : List Char := cs.takeWhile (· ≠ sep)

/-- The text after the first separator; nothing if there is none. -/
def after (sep : Char) (cs : List Char) : List Char := (cs.dropWhile (· ≠ sep)).drop 1

/-- The characters that are not looked at: control characters and spaces in front, and tabs and line
ends anywhere. -/
def cleaned (url : List Char) : List Char :=
  (url.dropWhile (·.toNat ≤ 0x20)).filter (· ∉ ['\t', '\r', '\n'])

def isSchemeChar (c : Char) : Bool := c.isAlphanum || c ∈ ['+', '-', '.']

/-- The scheme in lower case, and the rest. -/
def splitScheme (url : List Char) : List Char × List Char :=
  let scheme := before ':' url
  if ':' ∈ url ∧ scheme.head?.any Char.isAlpha ∧ scheme.all isSchemeChar then
    (scheme.map Char.toLower, after ':' url)
  else ([], url)

/-- The network location, and the rest. -/
def splitNetloc (url : List Char) : List Char × List Char :=
  match url with
  | '/' :: '/' :: rest => (rest.takeWhile (· ∉ ['/', '?', '#']), rest.dropWhile (· ∉ ['/', '?', '#']))
  | _ => ([], url)

structure ParseResult where
  scheme : List Char
  netloc : List Char
  query : List Char
  fragment : List Char
  deriving DecidableEq, Repr

/-- Scheme, network location and the rest of a text. -/
def location (url : List Char) : List Char × List Char × List Char :=
  ((splitScheme url).1, splitNetloc (splitScheme url).2)

/-- `urlparse(url)`, with what is to be said against a network location; an error is the message of a
`ValueError`. -/
def urlparse (refusal : List Char → Option String) (url : List Char) : Except String ParseResult :=
  let (scheme, netloc, rest) := location (cleaned url)
  match refusal netloc with
  | none => .ok ⟨scheme, netloc, after '?' (before '#' rest), after '#' rest⟩
  | some msg => .error msg

/-! ## Quoting -/

/-- The bytes that stand for themselves: ASCII letters, digits, `_`, `.`, `-` and `~`. -/
def isSafe (b : UInt8) : Bool :=
  (Char.ofNat b.toNat).isAlphanum || Char.ofNat b.toNat ∈ ['_', '.', '-', '~']

def hexDigit (n : Nat) : Char := if n < 10 then Char.ofNat (0x30 + n) else Char.ofNat (0x37 + n)

def quoteByte (b : UInt8) : List Char :=
  if b = 0x20 then ['+']
  else if isSafe b then [Char.ofNat b.toNat]
  else ['%', hexDigit (b.toNat / 16), hexDigit (b.toNat % 16)]

/-- `quote_plus(text)`. -/
def quotePlus (cs : List Char) : List Char := (Utf8.encode cs).flatMap quoteByte

/-- `urlencode({name: value})`. -/
def urlencode (name value : List Char) : List Char := quotePlus name ++ '=' :: quotePlus value

def hexValue? (c : Char) : Option Nat :=
  if c.isDigit then some (c.toNat - 0x30)
  else if 'a' ≤ c ∧ c ≤ 'f' then some (c.toNat - 0x57)
  else if 'A' ≤ c ∧ c ≤ 'F' then some (c.toNat - 0x37)
  else none

/-- `unquote_to_bytes` of an ASCII text. -/
def unquoteToBytes : List Char → List UInt8
  | [] => []
  | '%' :: a :: b :: cs =>
      match hexValue? a, hexValue? b with
      | some high, some low => UInt8.ofNat (16 * high + low) :: unquoteToBytes cs
      | _, _ => 0x25 :: unquoteToBytes (a :: b :: cs)
  | c :: cs => UInt8.ofNat c.toNat :: unquoteToBytes cs

/-- `unquote`, with a run of ASCII characters that has been gone over: each run is decoded, and other
characters stay. -/
def unquoteRun (run : List Char) : List Char → List Char
  | [] => Utf8.decode (unquoteToBytes run)
  | c :: cs =>
      if c.toNat < 128 then unquoteRun (run ++ [c]) cs
      else Utf8.decode (unquoteToBytes run) ++ c :: unquoteRun [] cs

/-- `unquote_plus(text)`. -/
def unquotePlus (cs : List Char) : List Char :=
  unquoteRun [] (cs.map fun c => if c = '+' then ' ' else c)

/-- The fields of a query that have a value. -/
def fields (query : List Char) : List (List Char × List Char) :=
  (query.splitOn '&').filterMap fun field =>
    if after '=' field = [] then none
    else some (unquotePlus (before '=' field), unquotePlus (after '=' field))

/-- `parse_qs(query).get(name, [])`. -/
def queryValues (query name : List Char) : List (List Char) :=
  ((fields query).filter (·.1 = name)).map (·.2)

/-! ## Separators -/

theorem forall_ne_of_notMem {sep : Char} {cs : List Char} (h : sep ∉ cs) :
    ∀ c ∈ cs, decide (c ≠ sep) = true := by
  intro c hc
  rw [decide_eq_true_iff]
  rintro rfl
  exact h hc

theorem before_append {sep : Char} {cs : List Char} (h : sep ∉ cs) (rest : List Char) :
    before sep (cs ++ rest) = cs ++ before sep rest :=
  List.takeWhile_append_of_pos (forall_ne_of_notMem h)

theorem after_append {sep : Char} {cs : List Char} (h : sep ∉ cs) (rest : List Char) :
    after sep (cs ++ rest) = after sep rest := by
  unfold after
  rw [List.dropWhile_append_of_pos (forall_ne_of_notMem h)]

@[simp] theorem before_cons_self (sep : Char) (rest : List Char) : before sep (sep :: rest) = [] := by
  simp [before]

@[simp] theorem after_cons_self (sep : Char) (rest : List Char) : after sep (sep :: rest) = rest := by
  simp [after]

theorem before_of_notMem {sep : Char} {cs : List Char} (h : sep ∉ cs) : before sep cs = cs :=
  List.takeWhile_eq_self_iff.mpr (forall_ne_of_notMem h)

/-- A text that has the separator is cut at the first one. -/
theorem eq_before_append {sep : Char} {cs : List Char} (h : sep ∈ cs) :
    sep ∉ before sep cs ∧ cs = before sep cs ++ sep :: after sep cs := by
  rcases Text.split_succ_cases sep 0 cs with ⟨hnone, -⟩ | ⟨word, rest, hword, hcs, -⟩
  · exact absurd h hnone
  · rw [hcs, before_append hword, after_append hword, before_cons_self, after_cons_self,
      List.append_nil]
    exact ⟨hword, rfl⟩

/-! ## What is quoted is read back -/

/-- What `quote_plus` writes is ASCII, and none of it separates. -/
def isQuoted (c : Char) : Bool :=
  c.toNat < 128 && c ∉ ['&', '=', '#', '?', '\t', '\r', '\n']

theorem quoteByte_isQuoted (b : UInt8) : (quoteByte b).all isQuoted := by
  have hall : ∀ n < 256, (quoteByte (UInt8.ofNat n)).all isQuoted := by decide +kernel
  simpa using hall b.toNat b.toNat_lt

theorem isQuoted_of_mem {cs : List Char} {c : Char} (h : c ∈ quotePlus cs) : isQuoted c := by
  obtain ⟨b, -, hc⟩ := List.mem_flatMap.mp h
  exact List.all_eq_true.mp (quoteByte_isQuoted b) c hc

theorem quotePlus_ne_nil {cs : List Char} (h : cs ≠ []) : quotePlus cs ≠ [] := by
  obtain ⟨c, cs, rfl⟩ := List.exists_cons_of_ne_nil h
  intro hnil
  have hlength := String.length_utf8EncodeChar c
  have hpos := c.utf8Size_pos
  cases hbytes : String.utf8EncodeChar c with
  | nil =>
      rw [hbytes, List.length_nil] at hlength
      omega
  | cons b bytes =>
      simp only [quotePlus, Utf8.encode, List.flatMap_cons, hbytes, List.cons_append,
        List.append_eq_nil_iff] at hnil
      have hquoted : quoteByte b ≠ [] := by
        unfold quoteByte
        split
        · simp
        · split <;> simp
      exact hquoted hnil.1

/-- `text.replace("+", " ")`. -/
def spaced (cs : List Char) : List Char := cs.map fun c => if c = '+' then ' ' else c

/-- A byte is found where it was quoted, whatever follows. -/
theorem unquoteToBytes_quoteByte (b : UInt8) (cs : List Char) :
    unquoteToBytes (spaced (quoteByte b) ++ cs) = b :: unquoteToBytes cs := by
  have hplain : ∀ n < 256, isSafe (UInt8.ofNat n) →
      (Char.ofNat n ≠ '+' ∧ Char.ofNat n ≠ '%' ∧ (Char.ofNat n).toNat = n) := by decide +kernel
  have hhex : ∀ n < 16, hexDigit n ≠ '+' ∧ hexValue? (hexDigit n) = some n := by decide +kernel
  have hb := b.toNat_lt
  unfold quoteByte
  split
  · next hspace =>
    rw [hspace]
    rfl
  split
  · next hsafe =>
    obtain ⟨hplus, hpercent, hvalue⟩ := hplain b.toNat hb (by simpa using hsafe)
    simp only [spaced, List.map_cons, List.map_nil, if_neg hplus, List.cons_append, List.nil_append]
    rw [unquoteToBytes, hvalue, UInt8.ofNat_toNat]
    exact fun _ _ _ heq _ => hpercent heq
  · obtain ⟨hplus, hhigh⟩ := hhex (b.toNat / 16) (by omega)
    obtain ⟨hplus', hlow⟩ := hhex (b.toNat % 16) (by omega)
    simp only [spaced, List.map_cons, List.map_nil, if_neg hplus, if_neg hplus', List.cons_append,
      List.nil_append]
    rw [if_neg (by decide), unquoteToBytes, hhigh, hlow]
    dsimp only
    rw [Nat.div_add_mod, UInt8.ofNat_toNat]

theorem unquoteToBytes_quoteBytes (bytes : List UInt8) :
    unquoteToBytes (spaced (bytes.flatMap quoteByte)) = bytes := by
  induction bytes with
  | nil => rfl
  | cons b bytes ih =>
      have happend : spaced ((b :: bytes).flatMap quoteByte) =
          spaced (quoteByte b) ++ spaced (bytes.flatMap quoteByte) := by
        simp [spaced]
      rw [happend, unquoteToBytes_quoteByte, ih]

theorem unquoteRun_ascii {cs : List Char} (h : ∀ c ∈ cs, c.toNat < 128) (run : List Char) :
    unquoteRun run cs = Utf8.decode (unquoteToBytes (run ++ cs)) := by
  induction cs generalizing run with
  | nil => rw [unquoteRun, List.append_nil]
  | cons c cs ih =>
      rw [unquoteRun, if_pos (h c (by simp)), ih (fun c' hc' => h c' (by simp [hc'])),
        List.append_assoc, List.singleton_append]

theorem unquotePlus_quotePlus (cs : List Char) : unquotePlus (quotePlus cs) = cs := by
  have hascii : ∀ c ∈ spaced (quotePlus cs), c.toNat < 128 := by
    intro c hc
    obtain ⟨c', hc', rfl⟩ := List.mem_map.mp hc
    have hquoted := isQuoted_of_mem hc'
    simp only [isQuoted, Bool.and_eq_true, decide_eq_true_eq] at hquoted
    split
    · decide
    · exact hquoted.1
  show unquoteRun [] (spaced (quotePlus cs)) = cs
  rw [unquoteRun_ascii hascii, List.nil_append, quotePlus, unquoteToBytes_quoteBytes,
    Utf8.decode_encode]

theorem notMem_urlencode {name value : List Char} {sep : Char} (hsep : isQuoted sep = false)
    (hne : sep ≠ '=') : sep ∉ urlencode name value := by
  intro h
  rcases List.mem_append.mp h with h | h
  · rw [isQuoted_of_mem h] at hsep
    cases hsep
  · rcases List.mem_cons.mp h with h | h
    · exact hne h
    · rw [isQuoted_of_mem h] at hsep
      cases hsep

theorem fields_urlencode {name value : List Char} (h : value ≠ []) :
    fields (urlencode name value) = [(name, value)] := by
  have hname : '=' ∉ quotePlus name := fun hmem => by cases isQuoted_of_mem hmem
  unfold fields
  rw [List.splitOn_eq_singleton (notMem_urlencode rfl (by decide))]
  simp only [List.filterMap_cons, List.filterMap_nil, urlencode, before_append hname,
    after_append hname, before_cons_self, after_cons_self, List.append_nil,
    if_neg (quotePlus_ne_nil h), unquotePlus_quotePlus]

theorem fields_cons_separator (query : List Char) : fields ('&' :: query) = fields query := by
  have hsplit := List.splitOn_append_cons_self (a := '&') [] query
  rw [List.nil_append, List.splitOn_nil] at hsplit
  unfold fields
  rw [hsplit, List.filterMap_append]
  simp [after]

/-- The value of a field is found under its name, also after a separator. -/
theorem queryValues_urlencode {name value : List Char} (h : value ≠ []) :
    queryValues (urlencode name value) name = [value] ∧
      queryValues ('&' :: urlencode name value) name = [value] := by
  unfold queryValues
  rw [fields_cons_separator, fields_urlencode h]
  simp

theorem queryValues_nil (name : List Char) : queryValues [] name = [] := by
  simp [queryValues, fields, after]

/-! ## Where a query begins -/

/-- A part of a URL that comes after the path: it is empty, or a query or a fragment. -/
def IsTail (tail : List Char) : Prop :=
  tail = [] ∨ (∃ query, tail = '?' :: query) ∨ ∃ fragment, tail = '#' :: fragment

theorem splitScheme_append {url : List Char} (h : ':' ∈ url) (tail : List Char) :
    splitScheme (url ++ tail) = ((splitScheme url).1, (splitScheme url).2 ++ tail) := by
  obtain ⟨hfree, hurl⟩ := eq_before_append h
  have hbefore : before ':' (url ++ tail) = before ':' url := by
    conv_lhs => rw [hurl, List.append_assoc, List.cons_append, before_append hfree]
    simp
  have hafter : after ':' (url ++ tail) = after ':' url ++ tail := by
    conv_lhs => rw [hurl, List.append_assoc, List.cons_append, after_append hfree]
    simp
  unfold splitScheme
  simp only [hbefore, hafter, h, List.mem_append, true_or]
  split
  · rfl
  · rfl

/-- A span that ends at the latest where a tail begins. -/
theorem span_append {p : Char → Bool} {tail : List Char} (h : ∀ c ∈ tail.head?, p c = false)
    (cs : List Char) : (cs ++ tail).takeWhile p = cs.takeWhile p ∧
      (cs ++ tail).dropWhile p = cs.dropWhile p ++ tail := by
  induction cs with
  | nil =>
      cases tail with
      | nil => exact ⟨rfl, rfl⟩
      | cons c tail =>
          have hc := h c rfl
          constructor
          · simp [hc]
          · simp [hc]
  | cons c cs ih =>
      rw [List.cons_append, List.takeWhile_cons, List.takeWhile_cons, List.dropWhile_cons,
        List.dropWhile_cons, ih.1, ih.2]
      split
      · exact ⟨rfl, rfl⟩
      · exact ⟨rfl, rfl⟩

theorem splitNetloc_of_ne {url : List Char} (h : ∀ rest, url ≠ '/' :: '/' :: rest) :
    splitNetloc url = ([], url) := by
  unfold splitNetloc
  split
  · next rest => exact absurd rfl (h rest)
  · rfl

theorem splitNetloc_append (url : List Char) {tail : List Char} (htail : IsTail tail) :
    splitNetloc (url ++ tail) = ((splitNetloc url).1, (splitNetloc url).2 ++ tail) := by
  have hhead : ∀ c ∈ tail.head?, c = '?' ∨ c = '#' := by
    rcases htail with rfl | ⟨rest, rfl⟩ | ⟨rest, rfl⟩
    · simp
    · simp
    · simp
  by_cases hurl : ∃ rest, url = '/' :: '/' :: rest
  · obtain ⟨rest, rfl⟩ := hurl
    have hstop : ∀ c ∈ tail.head?, decide (c ∉ ['/', '?', '#']) = false := by
      intro c hc
      rcases hhead c hc with rfl | rfl
      · decide
      · decide
    obtain ⟨htake, hdrop⟩ := span_append hstop rest
    show ((rest ++ tail).takeWhile _, (rest ++ tail).dropWhile _) = (_, _)
    rw [htake, hdrop]
    rfl
  · -- a tail begins with no slash, so it completes no pair of them
    have hjoined : ∀ rest, url ++ tail ≠ '/' :: '/' :: rest := by
      intro rest heq
      match url with
      | [] => simpa using hhead '/' (by rw [← List.nil_append tail, heq]; rfl)
      | [_] =>
          have hslash : tail = '/' :: rest := (List.cons.inj heq).2
          simpa using hhead '/' (by rw [hslash]; rfl)
      | a :: b :: url =>
          simp only [List.cons_append, List.cons.injEq] at heq
          obtain ⟨rfl, rfl, -⟩ := heq
          exact hurl ⟨url, rfl⟩
    rw [splitNetloc_of_ne hjoined, splitNetloc_of_ne fun rest heq => hurl ⟨rest, heq⟩]

theorem location_append {url tail : List Char} (hscheme : ':' ∈ url) (htail : IsTail tail) :
    location (url ++ tail) =
      ((location url).1, (location url).2.1, (location url).2.2 ++ tail) := by
  unfold location
  rw [splitScheme_append hscheme, splitNetloc_append _ htail]

theorem location_subset (url : List Char) : (location url).2.2 ⊆ url := by
  have hscheme : (splitScheme url).2 ⊆ url := by
    unfold splitScheme
    dsimp only
    split
    · exact fun c hc => (List.dropWhile_suffix _).subset ((List.drop_suffix 1 _).subset hc)
    · exact fun c hc => hc
  have hnetloc : (splitNetloc (splitScheme url).2).2 ⊆ (splitScheme url).2 := by
    unfold splitNetloc
    split
    · next rest heq =>
      rw [heq]
      intro c hc
      exact List.mem_cons_of_mem _ (List.mem_cons_of_mem _ ((List.dropWhile_suffix _).subset hc))
    · exact fun c hc => hc
  exact fun c hc => hscheme (hnetloc hc)

/-- A URL with a scheme has a colon, before any query or fragment. -/
theorem colon_of_scheme {url : List Char} (h : (location url).1 ≠ []) {sep : Char}
    (hsep : isSchemeChar sep = false) (hne : sep ≠ ':') : ':' ∈ before sep url := by
  have hurl : ':' ∈ url ∧ (before ':' url).all isSchemeChar := by
    unfold location splitScheme at h
    dsimp only at h
    split at h
    · next hscheme => exact ⟨hscheme.1, hscheme.2.2⟩
    · exact absurd rfl h
  obtain ⟨-, hcut⟩ := eq_before_append hurl.1
  have hfree : sep ∉ before ':' url := by
    intro hmem
    have hall := List.all_eq_true.mp hurl.2 sep hmem
    rw [hsep] at hall
    cases hall
  have hcolon : before sep (':' :: after ':' url) = ':' :: before sep (after ':' url) :=
    List.takeWhile_cons_of_pos (decide_eq_true hne.symm)
  rw [hcut, before_append hfree, hcolon]
  exact List.mem_append_right _ List.mem_cons_self

theorem mem_cleaned {url : List Char} {c : Char} (h : 0x20 < c.toNat) :
    c ∈ cleaned url ↔ c ∈ url := by
  have hsafe : c ∉ ['\t', '\r', '\n'] := by
    intro hmem
    simp only [List.mem_cons, List.not_mem_nil, or_false] at hmem
    rcases hmem with rfl | rfl | rfl
    all_goals exact absurd h (by decide)
  rw [cleaned, List.mem_filter, decide_eq_true hsafe, and_iff_left rfl]
  refine ⟨fun hc => (List.dropWhile_suffix _).subset hc, fun hc => ?_⟩
  -- what is skipped in front is made of control characters
  rw [← List.takeWhile_append_dropWhile (p := fun c : Char => decide (c.toNat ≤ 0x20)) (l := url)]
    at hc
  refine (List.mem_append.mp hc).resolve_left fun hskipped => ?_
  have hcontrol := List.mem_takeWhile_imp hskipped
  rw [decide_eq_true_iff] at hcontrol
  omega

/-- What is added to a URL is not skipped. -/
theorem cleaned_append {url : List Char} {c : Char} (hc : 0x20 < c.toNat) (hmem : c ∈ url)
    {more : List Char} (hmore : ∀ c ∈ more, c ∉ ['\t', '\r', '\n']) :
    cleaned (url ++ more) = cleaned url ++ more := by
  have hkept : url.dropWhile (fun c => decide (c.toNat ≤ 0x20)) ≠ [] := by
    intro hnil
    have hcontrol := List.dropWhile_eq_nil_iff.mp hnil c hmem
    rw [decide_eq_true_iff] at hcontrol
    omega
  have hall : more.filter (fun c => decide (c ∉ ['\t', '\r', '\n'])) = more := by
    apply List.filter_eq_self.mpr
    intro c hc
    exact decide_eq_true (hmore c hc)
  unfold cleaned
  rw [List.dropWhile_append, if_neg (by simpa using hkept), List.filter_append, hall]

/-- A URL of which the front is known: what follows it is a query, a fragment or nothing. -/
theorem urlparse_ok_iff {refusal : List Char → Option String} {url front tail : List Char}
    (hurl : cleaned url = front ++ tail) (hscheme : ':' ∈ front) (htail : IsTail tail)
    {parsed : ParseResult} :
    urlparse refusal url = .ok parsed ↔
      refusal (location front).2.1 = none ∧
        parsed = ⟨(location front).1, (location front).2.1,
          after '?' (before '#' ((location front).2.2 ++ tail)),
          after '#' ((location front).2.2 ++ tail)⟩ := by
  unfold urlparse
  rw [hurl, location_append hscheme htail]
  dsimp only
  split
  · next hnone => simp only [hnone, true_and, Except.ok.injEq, eq_comm]
  · next msg hsome => simp [hsome]

theorem scheme_of_urlparse {refusal : List Char → Option String} {url : List Char}
    {parsed : ParseResult} (h : urlparse refusal url = .ok parsed) :
    (location (cleaned url)).1 = parsed.scheme := by
  unfold urlparse at h
  dsimp only at h
  split at h
  · obtain rfl := Except.ok.inj h
    rfl
  · cases h

end Url

end Data
