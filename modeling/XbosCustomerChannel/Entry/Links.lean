import XbosCustomerChannel.Transports.EntryLinks

/-!
# Links carry their token

A link is a base with a query added, and the token is read from the query of the link. A base may
have a question mark without anything after it, and the query is then continued; but a base may as
well have a number sign without anything after it, and what is added to that is a fragment.
-/

namespace XbosCustomerChannel

open Data

namespace EntryContextService

/-- `token_from_link`. -/
def tokenFromLink [NetlocChecking] (url : String) : Except Exc String := do
  let parsed ← urlparse url
  match Url.queryValues parsed.query "entry_token".toList with
  | [value] =>
      if value = [] then .error ⟨.entryContextRejected, "missing_entry_token"⟩
      else .ok (String.ofList value)
  | _ => .error ⟨.entryContextRejected, "missing_entry_token"⟩

end EntryContextService

namespace EntryLinkBuilder

section

variable [NetlocChecking]

/-! ## What the constructor accepts -/

/-- A base that `urlparse` finds to be an `https` URL of some host, with no query and no fragment. -/
theorem trusted_ok {base kept : String} (h : trusted base = .ok kept) :
    kept = String.ofList (Text.rstrip '?' base.toList) ∧
      ∃ parsed, Url.urlparse NetlocChecking.refusal base.toList = .ok parsed ∧
        parsed.scheme ≠ [] ∧ parsed.query = [] ∧ parsed.fragment = [] := by
  unfold trusted urlparse at h
  cases hparsed : Url.urlparse NetlocChecking.refusal base.toList with
  | error msg =>
      rw [hparsed] at h
      cases h
  | ok parsed =>
      rw [hparsed] at h
      simp only [bind, Except.bind] at h
      split at h
      · cases h
      next htrusted =>
      split at h
      · cases h
      next hplain =>
      rw [not_or, not_not, not_not] at hplain
      rw [not_or, not_not] at htrusted
      refine ⟨(Except.ok.inj h).symm, parsed, rfl, ?_, hplain.1, hplain.2⟩
      rw [htrusted.1]
      decide

/-- What is kept of the bases, one after another. -/
theorem get?_of_foldlM {entries : List (EntryTarget × String)} (hkeys : (entries.map Prod.fst).Nodup)
    {kept bases : OrderedDict EntryTarget String}
    (h : entries.foldlM (fun bases item => do
      let base ← trusted item.2
      pure (OrderedDict.set bases item.1 base)) kept = .ok bases) (target : EntryTarget) :
    match entries.lookup target with
    | some base => ∃ base', trusted base = .ok base' ∧ bases.get? target = some base'
    | none => bases.get? target = kept.get? target := by
  induction entries generalizing kept with
  | nil =>
      obtain rfl := Except.ok.inj h
      rfl
  | cons item entries ih =>
      obtain ⟨key, base⟩ := item
      rw [List.map_cons, List.nodup_cons] at hkeys
      rw [List.foldlM_cons] at h
      cases htrusted : trusted base with
      | error e =>
          rw [htrusted] at h
          cases h
      | ok base' =>
          rw [htrusted] at h
          have hrest := ih hkeys.2 h
          have hset : (kept.set key base').get? target =
              if target = key then some base' else kept.get? target := OrderedDict.lookup_bind ..
          rw [OrderedDict.lookup_cons_eq]
          by_cases hkey : target = key
          · -- the target is kept here, and not again
            subst hkey
            have hlast : entries.lookup target = none := by
              simp only [List.lookup_eq_none_iff, bne_iff_ne]
              intro entry hentry heq
              exact hkeys.1 (List.mem_map.mpr ⟨entry, hentry, heq.symm⟩)
            rw [hlast] at hrest
            rw [if_pos rfl]
            exact ⟨base', htrusted, by rw [hrest, hset, if_pos rfl]⟩
          · rw [hset, if_neg hkey] at hrest
            rw [if_neg hkey]
            exact hrest

theorem create_ok {trustedBases : OrderedDict EntryTarget String} {links : EntryLinkBuilder}
    (h : create trustedBases = .ok links) (target : EntryTarget) :
    ∃ base kept, trustedBases.get? target = some base ∧ trusted base = .ok kept ∧
      links.bases.get? target = some kept := by
  unfold create at h
  split at h
  · cases h
  next hboth =>
  obtain ⟨base, hbase⟩ : ∃ base, trustedBases.get? target = some base := by
    obtain ⟨hwhatsapp, hweb⟩ := not_not.mp hboth
    cases target with
    | whatsapp => exact Option.isSome_iff_exists.mp hwhatsapp
    | customerWeb => exact Option.isSome_iff_exists.mp hweb
  cases hfold : trustedBases.entries.foldlM (fun bases item => do
      let base ← trusted item.2
      pure (OrderedDict.set bases item.1 base)) OrderedDict.empty with
  | error e =>
      rw [hfold] at h
      cases h
  | ok bases =>
      rw [hfold] at h
      obtain rfl := Except.ok.inj h
      have hkept := get?_of_foldlM trustedBases.nodup hfold target
      have hlookup : trustedBases.entries.lookup target = some base := hbase
      rw [hlookup] at hkept
      obtain ⟨kept, htrusted, hget⟩ := hkept
      exact ⟨base, kept, hbase, htrusted, hget⟩

/-! ## Where a base ends -/

/-- `urlparse` accepts the base and finds a scheme, and neither query nor fragment. -/
def PlainBase (base : List Char) : Prop :=
  ∃ parsed, Url.urlparse NetlocChecking.refusal base = .ok parsed ∧
    parsed.scheme ≠ [] ∧ parsed.query = [] ∧ parsed.fragment = []

omit [NetlocChecking] in
theorem isTail_cons {sep : Char} (hsep : sep = '?' ∨ sep = '#') (rest : List Char) :
    Url.IsTail (sep :: rest) := by
  rcases hsep with rfl | rfl
  · exact Or.inr (Or.inl ⟨rest, rfl⟩)
  · exact Or.inr (Or.inr ⟨rest, rfl⟩)

variable {base kept : List Char} {n : ℕ}

theorem PlainBase.colon (h : PlainBase base) {sep : Char} (hsep : sep = '?' ∨ sep = '#') :
    ':' ∈ Url.before sep (Url.cleaned base) := by
  obtain ⟨parsed, hparsed, hscheme, -⟩ := h
  rw [← Url.scheme_of_urlparse hparsed] at hscheme
  rcases hsep with rfl | rfl
  · exact Url.colon_of_scheme hscheme rfl (by decide)
  · exact Url.colon_of_scheme hscheme rfl (by decide)

/-- What is kept of a base is cleaned like the base. -/
theorem PlainBase.cleaned_kept (h : PlainBase base) (hbase : base = kept ++ List.replicate n '?')
    {more : List Char} (hmore : ∀ c ∈ more, c ∉ ['\t', '\r', '\n']) :
    Url.cleaned (kept ++ more) = Url.cleaned kept ++ more := by
  have hcolon : ':' ∈ base :=
    (Url.mem_cleaned (by decide)).mp ((List.takeWhile_prefix _).subset (h.colon (Or.inl rfl)))
  rw [hbase, List.mem_append, List.mem_replicate] at hcolon
  exact Url.cleaned_append (by decide) (hcolon.resolve_right (by simp)) hmore

/-- A base with no number sign is a path, with at most a question mark after it. -/
theorem PlainBase.front_of_notMem (h : PlainBase base)
    (hbase : base = kept ++ List.replicate n '?') (hsign : '#' ∉ base) :
    ∃ front, ':' ∈ front ∧ '?' ∉ front ∧ '#' ∉ front ∧
      NetlocChecking.refusal (Url.location front).2.1 = none ∧
      Url.cleaned kept = front ++ if '?' ∈ kept then ['?'] else [] := by
  have hwhole : Url.cleaned base = Url.cleaned kept ++ List.replicate n '?' := by
    rw [hbase]
    apply h.cleaned_kept hbase
    intro c hc
    rw [List.eq_of_mem_replicate hc]
    decide
  have hcolon := h.colon (Or.inl rfl)
  obtain ⟨parsed, hparsed, -, hquery, -⟩ := h
  have hclean : '#' ∉ Url.cleaned base := fun hmem => hsign ((Url.mem_cleaned (by decide)).mp hmem)
  by_cases hmark : '?' ∈ kept
  · -- the first question mark of what is kept has nothing after it
    obtain ⟨hfree, hcut⟩ := Url.eq_before_append ((Url.mem_cleaned (by decide)).mpr hmark)
    set front := Url.before '?' (Url.cleaned kept) with hfront
    have htail : Url.cleaned base =
        front ++ '?' :: (Url.after '?' (Url.cleaned kept) ++ List.replicate n '?') := by
      rw [hwhole]
      conv_lhs => rw [hcut]
      rw [List.append_assoc, List.cons_append]
    have hnosign : '#' ∉ front := fun hmem => hclean (by rw [htail]; exact List.mem_append_left _ hmem)
    rw [htail, Url.before_append hfree, Url.before_cons_self, List.append_nil] at hcolon
    obtain ⟨hnone, rfl⟩ :=
      (Url.urlparse_ok_iff htail hcolon (isTail_cons (Or.inl rfl) _)).mp hparsed
    have hrest : '?' ∉ (Url.location front).2.2 := fun hmem => hfree (Url.location_subset _ hmem)
    have hall : '#' ∉ (Url.location front).2.2 ++
        '?' :: (Url.after '?' (Url.cleaned kept) ++ List.replicate n '?') := by
      intro hmem
      rcases List.mem_append.mp hmem with hmem | hmem
      · exact hnosign (Url.location_subset _ hmem)
      · exact hclean (by rw [htail]; exact List.mem_append_right _ hmem)
    dsimp only at hquery
    rw [Url.before_of_notMem hall, Url.after_append hrest, Url.after_cons_self,
      List.append_eq_nil_iff] at hquery
    rw [hquery.1] at hcut
    exact ⟨front, hcolon, hfree, hnosign, hnone, by rw [if_pos hmark]; exact hcut⟩
  · have hfree : '?' ∉ Url.cleaned kept := fun hmem => hmark ((Url.mem_cleaned (by decide)).mp hmem)
    have hnosign : '#' ∉ Url.cleaned kept :=
      fun hmem => hclean (by rw [hwhole]; exact List.mem_append_left _ hmem)
    have hfront : Url.before '?' (Url.cleaned base) = Url.cleaned kept := by
      rw [hwhole, Url.before_append hfree]
      cases n with
      | zero => exact List.append_nil _
      | succ n => rw [List.replicate_succ, Url.before_cons_self, List.append_nil]
    have htail : Url.IsTail (List.replicate n '?') := by
      cases n with
      | zero => exact Or.inl rfl
      | succ n => exact isTail_cons (Or.inl rfl) _
    rw [hfront] at hcolon
    obtain ⟨hnone, -⟩ := (Url.urlparse_ok_iff hwhole hcolon htail).mp hparsed
    exact ⟨Url.cleaned kept, hcolon, hfree, hnosign, hnone, by rw [if_neg hmark, List.append_nil]⟩

/-- A base with a number sign ends with it. -/
theorem PlainBase.front_of_mem (h : PlainBase base)
    (hbase : base = kept ++ List.replicate n '?') (hsign : '#' ∈ base) :
    ∃ front, ':' ∈ front ∧ '#' ∉ front ∧ Url.after '?' (Url.location front).2.2 = [] ∧
      NetlocChecking.refusal (Url.location front).2.1 = none ∧
      Url.cleaned kept = front ++ ['#'] := by
  have hwhole : Url.cleaned base = Url.cleaned kept ++ List.replicate n '?' := by
    rw [hbase]
    apply h.cleaned_kept hbase
    intro c hc
    rw [List.eq_of_mem_replicate hc]
    decide
  have hcolon := h.colon (Or.inr rfl)
  obtain ⟨parsed, hparsed, -, hquery, hfragment⟩ := h
  have hkept : '#' ∈ Url.cleaned kept := by
    rw [hbase, List.mem_append, List.mem_replicate] at hsign
    exact (Url.mem_cleaned (by decide)).mpr (hsign.resolve_right (by simp))
  obtain ⟨hfree, hcut⟩ := Url.eq_before_append hkept
  set front := Url.before '#' (Url.cleaned kept) with hfront
  have htail : Url.cleaned base =
      front ++ '#' :: (Url.after '#' (Url.cleaned kept) ++ List.replicate n '?') := by
    rw [hwhole]
    conv_lhs => rw [hcut]
    rw [List.append_assoc, List.cons_append]
  rw [htail, Url.before_append hfree, Url.before_cons_self, List.append_nil] at hcolon
  obtain ⟨hnone, rfl⟩ := (Url.urlparse_ok_iff htail hcolon (isTail_cons (Or.inr rfl) _)).mp hparsed
  have hrest : '#' ∉ (Url.location front).2.2 := fun hmem => hfree (Url.location_subset _ hmem)
  dsimp only at hquery hfragment
  rw [Url.before_append hrest, Url.before_cons_self, List.append_nil] at hquery
  rw [Url.after_append hrest, Url.after_cons_self, List.append_eq_nil_iff] at hfragment
  rw [hfragment.1] at hcut
  exact ⟨front, hcolon, hfree, hquery, hnone, hcut⟩

/-! ## Where the token is found -/

/-- What `build` adds to a base that ends with a question mark, or to one that does not. -/
def added (kept token : List Char) : List Char :=
  (if '?' ∈ kept then '&' else '?') :: Url.urlencode "entry_token".toList token

omit [NetlocChecking] in
theorem build_toList {links : EntryLinkBuilder} {target : EntryTarget} {kept : List Char}
    (h : links.bases.get? target = some (String.ofList kept)) (token : String) :
    links.build target token = .ok (String.ofList (kept ++ added kept token.toList)) := by
  have hseparator : (if '?' ∈ kept then "&" else "?") =
      String.ofList [if '?' ∈ kept then '&' else '?'] := by
    split
    · rfl
    · rfl
  simp only [build, h, String.toList_ofList, hseparator, ← String.ofList_append, added,
    List.append_assoc, List.singleton_append]

omit [NetlocChecking] in
/-- Nothing that `build` adds is skipped or begins a fragment. -/
theorem notMem_added {kept token : List Char} {c : Char}
    (hc : c = '#' ∨ c ∈ ['\t', '\r', '\n']) : c ∉ added kept token := by
  have hquoted : Url.isQuoted c = false ∧ c ≠ '=' ∧ c ≠ '&' ∧ c ≠ '?' := by
    simp only [List.mem_cons, List.not_mem_nil, or_false] at hc
    rcases hc with rfl | rfl | rfl | rfl
    all_goals decide
  obtain ⟨hquoted, heq, hamp, hmark⟩ := hquoted
  intro hmem
  rcases List.mem_cons.mp hmem with h | h
  · split at h
    · exact hamp h
    · exact hmark h
  · exact Url.notMem_urlencode hquoted heq h

/-- The token is in the query of a link, if the base has no number sign. -/
theorem PlainBase.tokenFromLink_of_notMem (h : PlainBase base)
    (hbase : base = kept ++ List.replicate n '?') (hsign : '#' ∉ base) {token : String}
    (htoken : token ≠ "") :
    EntryContextService.tokenFromLink (String.ofList (kept ++ added kept token.toList)) =
      .ok token := by
  obtain ⟨front, hcolon, hfree, hnosign, hnone, hkept⟩ := h.front_of_notMem hbase hsign
  have hvalue : token.toList ≠ [] := fun hnil => htoken (String.toList_eq_nil_iff.mp hnil)
  -- the query begins at the question mark, whether the base had it or not
  obtain ⟨query, hurl, hvalues, hsafe⟩ : ∃ query,
      Url.cleaned (kept ++ added kept token.toList) = front ++ '?' :: query ∧
        Url.queryValues query "entry_token".toList = [token.toList] ∧ '#' ∉ query := by
    rw [h.cleaned_kept hbase (fun c hc hmem => notMem_added (Or.inr hmem) hc), hkept]
    have hsafe : '#' ∉ added kept token.toList := notMem_added (Or.inl rfl)
    unfold added at hsafe ⊢
    by_cases hmark : '?' ∈ kept
    · rw [if_pos hmark] at hsafe ⊢
      rw [if_pos hmark]
      exact ⟨_, List.append_assoc .., (Url.queryValues_urlencode hvalue).2, hsafe⟩
    · rw [if_neg hmark] at hsafe ⊢
      rw [if_neg hmark, List.append_nil]
      exact ⟨_, rfl, (Url.queryValues_urlencode hvalue).1,
        fun hmem => hsafe (List.mem_cons_of_mem _ hmem)⟩
  have hrest : '?' ∉ (Url.location front).2.2 := fun hmem => hfree (Url.location_subset _ hmem)
  have hall : '#' ∉ (Url.location front).2.2 ++ '?' :: query := by
    intro hmem
    rcases List.mem_append.mp hmem with hmem | hmem
    · exact hnosign (Url.location_subset _ hmem)
    · exact hsafe ((List.mem_cons.mp hmem).resolve_left (by decide))
  have hparsed := (Url.urlparse_ok_iff hurl hcolon (isTail_cons (Or.inl rfl) _)).mpr ⟨hnone, rfl⟩
  rw [Url.before_of_notMem hall, Url.after_append hrest, Url.after_cons_self] at hparsed
  simp only [EntryContextService.tokenFromLink, urlparse, String.toList_ofList, hparsed, bind,
    Except.bind, hvalues, if_neg hvalue, String.ofList_toList]

/-- Otherwise it is in the fragment. -/
theorem PlainBase.tokenFromLink_of_mem (h : PlainBase base)
    (hbase : base = kept ++ List.replicate n '?') (hsign : '#' ∈ base) (token : List Char) :
    EntryContextService.tokenFromLink (String.ofList (kept ++ added kept token)) =
      .error ⟨.entryContextRejected, "missing_entry_token"⟩ := by
  obtain ⟨front, hcolon, hfree, hquery, hnone, hkept⟩ := h.front_of_mem hbase hsign
  have hurl : Url.cleaned (kept ++ added kept token) = front ++ '#' :: added kept token := by
    rw [h.cleaned_kept hbase (fun c hc hmem => notMem_added (Or.inr hmem) hc), hkept,
      List.append_assoc, List.singleton_append]
  have hrest : '#' ∉ (Url.location front).2.2 := fun hmem => hfree (Url.location_subset _ hmem)
  have hparsed := (Url.urlparse_ok_iff hurl hcolon (isTail_cons (Or.inr rfl) _)).mpr ⟨hnone, rfl⟩
  rw [Url.before_append hrest, Url.before_cons_self, List.append_nil, hquery] at hparsed
  simp only [EntryContextService.tokenFromLink, urlparse, String.toList_ofList, hparsed, bind,
    Except.bind, Url.queryValues_nil]

/-- The link that is built for a target carries the token, if and only if the base that was trusted
for this target has no number sign. -/
theorem tokenFromLink_build_iff {trustedBases : OrderedDict EntryTarget String}
    {links : EntryLinkBuilder} (h : create trustedBases = .ok links) (target : EntryTarget)
    {token : String} (htoken : token ≠ "") :
    (links.build target token >>= EntryContextService.tokenFromLink) = .ok token ↔
      ∀ base ∈ trustedBases.get? target, '#' ∉ base.toList := by
  obtain ⟨base, kept, hget, htrusted, hkept⟩ := create_ok h target
  obtain ⟨rfl, parsed, hparsed, hscheme, hquery, hfragment⟩ := trusted_ok htrusted
  have hplain : PlainBase base.toList := ⟨parsed, hparsed, hscheme, hquery, hfragment⟩
  obtain ⟨n, hbase⟩ := Text.rstrip_append '?' base.toList
  rw [build_toList hkept, hget]
  simp only [bind, Except.bind, Option.mem_def, Option.some.injEq, forall_eq']
  constructor
  · intro hlink hsign
    rw [hplain.tokenFromLink_of_mem hbase hsign] at hlink
    cases hlink
  · intro hfree
    exact hplain.tokenFromLink_of_notMem hbase hfree htoken

end

/-- Bases of two names. -/
def namedBases (whatsapp customerWeb : String) : OrderedDict EntryTarget String :=
  (OrderedDict.empty.set .whatsapp whatsapp).set .customerWeb customerWeb

/-- A token of reserved characters comes back, from a base with a question mark at its end. -/
theorem reserved_token_carried :
    let _ : NetlocChecking := ⟨fun _ => none⟩
    let bases := namedBases "https://wa.example/entry?" "https://web.example/entry"
    ∃ links, create bases = .ok links ∧
      (links.build .whatsapp "a&b=#?%+é" >>= EntryContextService.tokenFromLink) =
        .ok "a&b=#?%+é" := by
  intro _ bases
  have haccepted : (create bases).isOk := by decide +kernel
  cases hlinks : create bases with
  | error e =>
      rw [hlinks] at haccepted
      cases haccepted
  | ok links =>
      exact ⟨links, rfl, (tokenFromLink_build_iff hlinks .whatsapp (by decide)).mpr (by decide)⟩

/-- A base with a number sign at its end is trusted, and its links lose their token. -/
theorem token_lost_after_number_sign :
    let _ : NetlocChecking := ⟨fun _ => none⟩
    let bases := namedBases "https://wa.example/entry#" "https://web.example/entry"
    (create bases).isOk ∧
      (do
        let links ← create bases
        let url ← links.build .whatsapp "opaque"
        EntryContextService.tokenFromLink url) ≠ .ok "opaque" := by
  decide +kernel

end EntryLinkBuilder

end XbosCustomerChannel
