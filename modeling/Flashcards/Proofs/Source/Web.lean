import Flashcards.Proofs.Source.Base
import Flashcards.Source.Web

/-!
# Addresses of resources on the web

The address of a resource is its path resolved against the base address of the decks. A path of names only goes on where the base ends; but a path
is a reference, and it may name another scheme or host, start at the top of the host, or lead up. `WebSource.addressOf_within_base` tells for every
path whether the address that comes out begins with the base address.
-/

namespace Flashcards

open Text

/-! ## Base addresses -/

/-- A text is the address of a host on the web, without a query and without a fragment. -/
structure IsWebAddress (t : Text) (b : Address) : Prop where
  read : Address.read [] t = .ok b
  web : b.scheme = "http" ∨ b.scheme = "https"
  host : b.host ≠ []
  query : '?' ∉ t
  fragment : '#' ∉ t

namespace IsWebAddress

open Address

variable {t : Text} {b r : Address}

theorem not_blank_slash : isLeadingBlank '/' = false ∧ isDropped '/' = false := by decide

theorem tidied_append {t : Text} (h : tidied t ≠ []) (more : Text) : tidied (t ++ more) = tidied t ++ more.filter (!isDropped ·) := by
  have hne : t.dropWhile isLeadingBlank ≠ [] := by
    intro hnil
    rw [tidied, hnil] at h
    exact h rfl
  rw [tidied, tidied, List.dropWhile_append, if_neg (by simpa using hne), List.filter_append]

theorem getLast?_tidied (h : t.getLast? = some '/') : (tidied t).getLast? = some '/' := by
  obtain ⟨t, rfl⟩ := List.getLast?_eq_some_iff.1 h
  rw [tidied, List.dropWhile_append]
  split
  · rw [List.dropWhile_cons_of_neg (by rw [not_blank_slash.1]; exact Bool.false_ne_true)]
    rfl
  · rw [List.filter_append]
    exact List.getLast?_concat

/-- An address on the web begins with its scheme, and the rest is written without marks of queries and fragments. -/
theorem exists_schemed (h : IsWebAddress t b) : ∃ rest, Schemed (tidied t) b.scheme rest ∧ Written rest b ∧ '?' ∉ rest ∧ '#' ∉ rest := by
  obtain ⟨hscheme, hwritten⟩ := of_read h.read
  have hschemed : Schemed (tidied t) b.scheme (takeScheme [] (tidied t)).2 := by
    rcases of_takeScheme [] (tidied t) with hs | hs
    · rwa [hscheme]
    · rw [hs] at hscheme
      exact absurd hscheme (scheme_ne_nil h.web)
  have hsub : ∀ c ∈ (takeScheme [] (tidied t)).2, c ∈ t := fun c hc =>
    (List.dropWhile_sublist _).subset (List.mem_filter.1 (hschemed.mem hc)).1
  exact ⟨_, hschemed, hwritten, fun hc => h.query (hsub _ hc), fun hc => h.fragment (hsub _ hc)⟩

/-- A base address is read as it is written: its scheme, its host and the path of a directory. -/
theorem spelled (h : IsWebAddress t b) (hlast : t.getLast? = some '/') :
    Schemed (tidied t) b.scheme ("//" ++ (b.host ++ b.path)) ∧ IsBase b := by
  obtain ⟨rest, hschemed, hwritten, hquery, hfragment⟩ := h.exists_schemed
  have hrest := hschemed.getLast?_eq (by decide) (getLast?_tidied hlast)
  obtain ⟨rfl, hbase⟩ := hwritten.isBase h.web h.host hquery hfragment hrest
  exact ⟨hschemed, hbase⟩

/-- A slash at the end of an address on the web makes it that of a directory. -/
theorem slash (h : IsWebAddress t b) : ∃ b', IsWebAddress (t ++ ['/']) b' := by
  obtain ⟨rest, hschemed, hwritten, hquery, hfragment⟩ := h.exists_schemed
  have htidied : tidied (t ++ ['/']) = tidied t ++ ['/'] := tidied_append hschemed.ne_nil ['/']
  obtain ⟨after, -, -, -, hrest | hrest, -⟩ := hwritten.spelled
  · obtain ⟨rfl, hends⟩ := hrest
    rw [← List.append_nil after] at hends
    have hends' : Ends (!endsHost ·) (after ++ ['/']) := ends_append hends (ends_cons.2 rfl)
    simp only [List.mem_append, not_or] at hquery hfragment
    have hspelled := hschemed.append ['/']
    rw [← htidied, List.append_assoc, List.append_assoc] at hspelled
    obtain ⟨path, parameters, hread⟩ := exists_read_eq [] hspelled hwritten.host hends'
      (by simpa using hquery.2.2) (by simpa using hfragment.2.2) (fault?_of_read h.read)
    exact ⟨_, hread, h.web, h.host, by simpa using h.query, by simpa using h.fragment⟩
  · exact absurd hrest.1 h.host

/-- A reference that begins with the base address has the scheme of the base. -/
theorem scheme_of_prefix (h : IsWebAddress t b) {path : Text} (hpath : t <+: path)
    (hread : Address.read b.scheme path = .ok r) : r.scheme = b.scheme := by
  obtain ⟨more, rfl⟩ := hpath
  obtain ⟨rest, hschemed, -⟩ := h.exists_schemed
  obtain ⟨hscheme, -⟩ := of_read hread
  rw [hscheme, tidied_append hschemed.ne_nil, takeScheme_of_schemed (hschemed.append _)]

/-- A text without dropped characters and without a blank at its start is tidy. -/
theorem tidied_eq {t : Text} (hhead : Ends isLeadingBlank t) (h : ∀ c ∈ t, isDropped c = false) : tidied t = t := by
  have hdrop : t.dropWhile isLeadingBlank = t := dropWhile_append (u := []) (List.forall_mem_nil _) hhead
  rw [tidied, hdrop, List.filter_eq_self]
  intro c hc
  rw [h c hc]
  rfl

theorem of_mem_scheme (h : IsWebAddress t b) :
    ∀ c ∈ b.scheme, (c != ':') = true ∧ isLeadingBlank c = false ∧ isDropped c = false := by
  have hall : b.scheme.all (fun c => c != ':' && (!isLeadingBlank c && !isDropped c)) = true := by
    rcases h.web with h | h <;> rw [h] <;> rfl
  intro c hc
  simpa using List.all_eq_true.1 hall c hc

/-- Only a base address that is written as it is read begins an address that is written of its scheme and a rest. -/
theorem eq_toText (h : IsWebAddress t b) (hlast : t.getLast? = some '/') {rest : Text} (hbegins : t <+: b.scheme ++ ':' :: rest)
    (hclean : ∀ c ∈ b.scheme ++ ':' :: rest, isDropped c = false) : t = b.toText := by
  obtain ⟨hschemed, hbase⟩ := h.spelled hlast
  have hscheme := h.of_mem_scheme
  have htidied : tidied t = t := by
    refine tidied_eq (fun c hc => ?_) fun c hc => hclean c (hbegins.subset hc)
    obtain ⟨more, hmore⟩ := hbegins
    have hhead := congrArg List.head? hmore
    rw [List.head?_append, hc, Option.some_or, List.head?_append_of_ne_nil _ hbase.scheme] at hhead
    exact (hscheme c (List.mem_of_head? hhead.symm)).2.1
  obtain ⟨first, name, hspelled, hfirst, hname, -⟩ := hschemed
  rw [htidied] at hspelled
  subst hspelled
  have hall := ne_colon_of_scheme hfirst hname
  have hsame : first :: name = b.scheme := by
    obtain ⟨more, hmore⟩ := hbegins
    have hends : ∀ t, Ends (· != ':') (':' :: t) := fun t => ends_cons.2 rfl
    rw [List.cons_append, List.append_assoc, List.cons_append, ← List.cons_append] at hmore
    have htaken := congrArg (List.takeWhile (· != ':')) hmore
    rwa [takeWhile_append hall (hends _), takeWhile_append (fun c hc => (hscheme c hc).1) (hends _)] at htaken
  rw [hbase.toText_eq, hbase.afterHost_eq, ← hsame]
  rfl

end IsWebAddress

/-! ## Addresses of resources -/

namespace WebSource

open Address

variable {base : Text} {b r : Address}

/-- A reference is read with the scheme of the base for its own, and leads to itself if it names another. -/
theorem resolve_of_read (h : IsWebAddress base b) (hbase : base ≠ []) {path : Text} (hpath : path ≠ []) :
    resolve base path =
      (Address.read b.scheme path).map fun r => if r.scheme = b.scheme then (b.reachedFrom r).toText else path := by
  have hempty : base.isEmpty = false := by simpa using hbase
  have hempty' : path.isEmpty = false := by simpa using hpath
  rw [resolve, hempty, hempty']
  show (Address.read [] base >>= fun b => Address.read b.scheme path >>= _) = _
  rw [h.read]
  show (Address.read b.scheme path >>= _) = _
  cases Address.read b.scheme path with
  | error failure => rfl
  | ok r =>
    show (if (r.scheme != b.scheme || !relativeSchemes.contains r.scheme) = true then _ else _) = Except.ok _
    by_cases hscheme : r.scheme = b.scheme
    · rw [hscheme, (joinable h.web).1, if_neg (by simp)]
      exact congrArg Except.ok (if_pos hscheme).symm
    · rw [if_pos (by simp [hscheme])]
      exact congrArg Except.ok (if_neg hscheme).symm

/-- An address that is reached by the scheme of the base begins with the base address exactly if this is written as it is read and the
reference is below it. -/
theorem prefix_reachedFrom_iff (h : IsWebAddress base b) (hlast : base.getLast? = some '/') {path : Text}
    (hread : Address.read b.scheme path = .ok r) (hscheme : r.scheme = b.scheme) :
    base <+: (b.reachedFrom r).toText ↔ base = b.toText ∧ Below b r := by
  obtain ⟨-, hbase⟩ := h.spelled hlast
  obtain ⟨-, hwritten⟩ := of_read hread
  constructor
  · intro hbegins
    obtain ⟨hon, hscheme'⟩ := hbase.reachedFrom_onHost hwritten hscheme
    have hclean : ∀ c ∈ b.scheme ++ ':' :: ("//" ++ ((b.reachedFrom r).host ++ (b.reachedFrom r).afterHost)), isDropped c = false := by
      have hall := hbase.clean_reachedFrom (clean_of_read h.read) (clean_of_read hread) hscheme
      have hmarks : ∀ c ∈ (":" ++ "//" : Text), isDropped c = false := by
        have hall : (":" ++ "//" : Text).all (!isDropped ·) = true := rfl
        intro c hc
        simpa using List.all_eq_true.1 hall c hc
      have hrest : ∀ c ∈ (":" ++ "//" : Text) ++ ((b.reachedFrom r).host ++ (b.reachedFrom r).afterHost), isDropped c = false :=
        List.forall_mem_append.2 ⟨hmarks, List.forall_mem_append.2 ⟨hall.host, hall.afterHost⟩⟩
      exact List.forall_mem_append.2 ⟨fun c hc => (h.of_mem_scheme c hc).2.2, hrest⟩
    have heq := h.eq_toText hlast (by rwa [hon.toText_eq, hscheme'] at hbegins) hclean
    exact ⟨heq, (hbase.prefix_reachedFrom_iff hwritten hscheme).1 (heq ▸ hbegins)⟩
  · rintro ⟨heq, hbelow⟩
    rw [heq]
    exact (hbase.prefix_reachedFrom_iff hwritten hscheme).2 hbelow

theorem ofAddress_base {address : Text} {a : Address} (h : IsWebAddress address a) (timeout concurrency : Option Int)
    (defaultTimeout defaultConcurrency : Int) :
    (∃ b, IsWebAddress (ofAddress address timeout concurrency defaultTimeout defaultConcurrency).base b) ∧
      (ofAddress address timeout concurrency defaultTimeout defaultConcurrency).base.getLast? = some '/' := by
  rw [ofAddress]
  dsimp only
  split
  · rename_i hlast
    exact ⟨⟨a, h⟩, hlast⟩
  · exact ⟨h.slash, List.getLast?_concat⟩

/-- The base address of decks on the web ends with a slash. The address of a resource whose path is only slashes is the base; every other path is
read, without its slashes at the start, as a reference, and if it is none there is no address. The address begins with the base exactly if the
base is written as it is read, the reference names no other scheme, and it is below the base. -/
theorem addressOf_within_base {address : Text} {a : Address} (h : IsWebAddress address a) (timeout concurrency : Option Int)
    (defaultTimeout defaultConcurrency : Int) :
    ∀ s, s = ofAddress address timeout concurrency defaultTimeout defaultConcurrency →
      ∃ b, IsWebAddress s.base b ∧ s.base.getLast? = some '/' ∧
        ∀ path reference, path.dropWhile (· == '/') = reference →
          (reference = [] → addressOf path s = .ok s.base) ∧
          (∀ failure, reference ≠ [] → Address.read b.scheme reference = .error failure → addressOf path s = .error failure) ∧
          (∀ r, reference ≠ [] → Address.read b.scheme reference = .ok r →
            ∃ url, addressOf path s = .ok url ∧ (s.base <+: url ↔ s.base = b.toText ∧ r.scheme = b.scheme ∧ Below b r)) := by
  rintro s rfl
  obtain ⟨⟨b, hb⟩, hlast⟩ := ofAddress_base h timeout concurrency defaultTimeout defaultConcurrency
  generalize ofAddress address timeout concurrency defaultTimeout defaultConcurrency = s at hb hlast
  have hne : s.base ≠ [] := by
    intro hnil
    rw [hnil] at hlast
    cases hlast
  refine ⟨b, hb, hlast, fun path reference hreference => ⟨fun hnil => ?_, fun failure href hread => ?_, fun r href hread => ?_⟩⟩
  · rw [addressOf, hreference, hnil, resolve, if_neg (by simpa using hne)]
    rfl
  · rw [addressOf, hreference, resolve_of_read hb hne href, hread]
    rfl
  · rw [addressOf, hreference, resolve_of_read hb hne href, hread]
    refine ⟨_, rfl, ?_⟩
    dsimp only
    split
    · rename_i hscheme
      rw [prefix_reachedFrom_iff hb hlast hread hscheme]
      exact and_congr_right fun _ => (and_iff_right hscheme).symm
    · rename_i hscheme
      exact ⟨fun hbegins => absurd (hb.scheme_of_prefix hbegins hread) hscheme, fun hin => absurd hin.2.1 hscheme⟩

/-- A path that leads up from the base and back into it gives an address below the base, and one that leads to a directory beside it does not. -/
theorem addressOf_within_base_climbing :
    (∃ url, addressOf "/en/../../IoT/./de/deck.json" (ofAddress "https://decks.example/IoT" none none 30 8) = .ok url ∧
      ("https://decks.example/IoT/" : Text) <+: url) ∧
    ∃ url, addressOf "../IoT2/deck.json" (ofAddress "https://decks.example/IoT" none none 30 8) = .ok url ∧
      ¬ ("https://decks.example/IoT/" : Text) <+: url := by
  have haddress : IsWebAddress "https://decks.example/IoT" ⟨"https", "decks.example", "/IoT", [], [], []⟩ :=
    ⟨by decide +kernel, by decide, by decide, by decide +kernel, by decide +kernel⟩
  obtain ⟨b, hb, -, hpaths⟩ := addressOf_within_base haddress none none 30 8 _ rfl
  have hread : Address.read [] "https://decks.example/IoT/" = .ok ⟨"https", "decks.example", "/IoT/", [], [], []⟩ := by decide +kernel
  obtain rfl := Except.ok.inj (hread.symm.trans hb.read)
  constructor
  · obtain ⟨-, -, hread⟩ := hpaths "/en/../../IoT/./de/deck.json" "en/../../IoT/./de/deck.json" (by decide +kernel)
    obtain ⟨url, hurl, hiff⟩ := hread ⟨"https", [], "en/../../IoT/./de/deck.json", [], [], []⟩ (by decide) (by decide +kernel)
    exact ⟨url, hurl, hiff.2 ⟨by decide +kernel, rfl, .path rfl (.inl (by decide)) (leadsTo_iff.2 rfl) (by decide +kernel)⟩⟩
  · obtain ⟨-, -, hread⟩ := hpaths "../IoT2/deck.json" "../IoT2/deck.json" (by decide +kernel)
    obtain ⟨url, hurl, hiff⟩ := hread ⟨"https", [], "../IoT2/deck.json", [], [], []⟩ (by decide) (by decide +kernel)
    refine ⟨url, hurl, fun hbegins => ?_⟩
    obtain ⟨-, -, ⟨h, -⟩ | ⟨-, h, -⟩ | ⟨-, -, hleads, hwithin⟩⟩ := hiff.1 hbegins
    · exact absurd h (by decide)
    · exact absurd h (by decide)
    · rw [← leadsTo_iff.1 hleads] at hwithin
      exact absurd hwithin (by decide +kernel)

/-- Not every path gives an address below the base: one may lead up, another may name a host or a scheme, also behind a blank. -/
theorem addressOf_outside_base :
    IsWebAddress "http://h/d/" ⟨"http", "h", "/d/", [], [], []⟩ ∧
      addressOf "../x" (ofAddress "http://h/d/" none none 30 8) = .ok "http://h/x" ∧
      ¬ (ofAddress "http://h/d/" none none 30 8).base <+: ("http://h/x" : Text) ∧
      addressOf "http://e/x" (ofAddress "http://h/d/" none none 30 8) = .ok "http://e/x" ∧
      addressOf "ftp:x" (ofAddress "http://h/d/" none none 30 8) = .ok "ftp:x" ∧
      addressOf " //e/x" (ofAddress "http://h/d/" none none 30 8) = .ok "http://e/x" :=
  ⟨⟨by decide +kernel, by decide, by decide, by decide +kernel, by decide +kernel⟩, by decide +kernel, by decide +kernel, by decide +kernel, by decide +kernel,
    by decide +kernel⟩

end WebSource

end Flashcards
