import Mathlib.Data.List.DropRight
import AgentFleet.Address.Reader
import AgentFleet.Config.Settings
import AgentFleet.Proofs.Address.Path

/-!
What is read of an address of the web when more is put behind it. Blanks at its end are dropped, but
not those that are then inside; what comes behind a question mark or a hash is no path.
-/

namespace AgentFleet.Address

variable {c : Char} {cs front rest path : List Char} {scheme : String}

/-! ### Beginnings -/

section Beginnings

variable {p : Char → Bool}

theorem exists_beginning (p : Char → Bool) (cs : List Char) : ∃ front rest, cs = front ++ rest ∧
    (∀ c ∈ front, p c = true) ∧ ∀ c, rest.head? = some c → p c = false := by
  refine ⟨cs.takeWhile p, cs.dropWhile p, List.takeWhile_append_dropWhile.symm, ?_, ?_⟩
  · intro c hc
    exact List.mem_takeWhile_imp hc
  · intro c hc
    have hhead := List.head?_dropWhile_not p cs
    rw [hc] at hhead
    simpa using hhead

theorem takeWhile_beginning (hfront : ∀ c ∈ front, p c = true)
    (hrest : ∀ c, rest.head? = some c → p c = false) : (front ++ rest).takeWhile p = front := by
  rw [List.takeWhile_append_of_pos hfront]
  cases rest with
  | nil => simp
  | cons c rest => simp [hrest c rfl]

theorem dropWhile_beginning (hfront : ∀ c ∈ front, p c = true)
    (hrest : ∀ c, rest.head? = some c → p c = false) : (front ++ rest).dropWhile p = rest := by
  have hjoined := List.takeWhile_append_dropWhile (p := p) (l := front ++ rest)
  rw [takeWhile_beginning hfront hrest] at hjoined
  exact List.append_cancel_left hjoined

end Beginnings

/-! ### Cleaning -/

def isBlank (c : Char) : Bool := c.toNat ≤ 0x20

theorem isBlank_of_isIgnored (h : isIgnored c = true) : isBlank c = true := by
  simp only [isIgnored, Bool.or_eq_true, decide_eq_true_eq] at h
  rcases h with (rfl | rfl) | rfl <;> decide

theorem filter_isIgnored (h : ∀ c ∈ cs, isBlank c = false) : cs.filter (!isIgnored ·) = cs := by
  refine List.filter_eq_self.mpr fun c hc => ?_
  rw [Bool.not_eq_true']
  by_contra hignored
  have hblank := isBlank_of_isIgnored (Bool.not_eq_false _ ▸ hignored)
  simp [h c hc] at hblank

theorem cleaned_eq (cs : List Char) : cleaned cs =
    ((cs.dropWhile isBlank).rdropWhile isBlank).filter (!isIgnored ·) := rfl

theorem rdropWhile_append (hne : front ≠ []) (hfront : ∀ c ∈ front, isBlank c = false)
    (rest : List Char) :
    (front ++ rest).rdropWhile isBlank = front ++ rest.rdropWhile isBlank := by
  induction rest using List.reverseRecOn with
  | nil =>
    rw [List.append_nil, List.rdropWhile_nil, List.append_nil, List.rdropWhile_eq_self_iff]
    intro _
    simp [hfront _ (List.getLast_mem hne)]
  | append_singleton rest c ih =>
    rw [← List.append_assoc, List.rdropWhile_concat, List.rdropWhile_concat]
    split_ifs
    · exact ih
    · exact List.append_assoc _ _ _

/-- What is cleaned of a text that starts without blanks: those at its end are dropped, unless
something comes behind them. -/
theorem exists_cleaned (hne : front ≠ []) (hfront : ∀ c ∈ front, isBlank c = false)
    (rest : List Char) : ∃ body blanks, rest.filter (!isIgnored ·) = body ++ blanks ∧
      (∀ c ∈ blanks, isBlank c = true) ∧ cleaned (front ++ rest) = front ++ body ∧
      (∀ c, (front ++ body).getLast? = some c → isBlank c = false) ∧
      ∀ path, path ≠ [] → (∀ c ∈ path, isBlank c = false) →
        cleaned (front ++ rest ++ path) = front ++ body ++ blanks ++ path := by
  have hstart : ∀ cs, (front ++ cs).dropWhile isBlank = front ++ cs := by
    intro cs
    obtain ⟨c, front, rfl⟩ := List.exists_cons_of_ne_nil hne
    have hc := hfront c List.mem_cons_self
    simp [hc]
  have hkept : rest.filter (!isIgnored ·) = (rest.rdropWhile isBlank).filter (!isIgnored ·) ++
      (rest.rtakeWhile isBlank).filter (!isIgnored ·) := by
    rw [← List.filter_append, List.rdropWhile_append_rtakeWhile]
  refine ⟨_, _, hkept, fun c hc => ?_, ?_, fun c hc => ?_, ?_⟩
  · exact List.mem_rtakeWhile_imp (List.mem_filter.mp hc).1
  · rw [cleaned_eq, hstart, rdropWhile_append hne hfront, List.filter_append,
      filter_isIgnored hfront]
  · rcases List.eq_nil_or_concat' (rest.rdropWhile isBlank) with hnil | ⟨body, d, hbody⟩
    · rw [hnil, List.filter_nil, List.append_nil] at hc
      exact hfront c (List.mem_of_getLast? hc)
    · have hd : isBlank d = false := by
        have hlast := List.rdropWhile_last_not isBlank rest (by simp [hbody])
        simpa [hbody] using hlast
      have hkeep : isIgnored d = false := by
        by_contra hignored
        simp [isBlank_of_isIgnored (Bool.not_eq_false _ ▸ hignored)] at hd
      have hcd : d = c := by simpa [hbody, hkeep] using hc
      rwa [← hcd]
  · intro path hpath hblank
    have hend : (front ++ rest ++ path).rdropWhile isBlank = front ++ rest ++ path := by
      rw [List.rdropWhile_eq_self_iff]
      intro hl
      rw [List.getLast_append_of_ne_nil hl hpath]
      simp [hblank _ (List.getLast_mem hpath)]
    rw [cleaned_eq, List.append_assoc, hstart, ← List.append_assoc, hend, List.filter_append,
      List.filter_append, filter_isIgnored hfront, filter_isIgnored hblank, hkept]
    simp only [List.append_assoc]

/-! ### The authority -/

section Authority

variable {text : List Char} {authority : Authority} {host : Host}

/-- The authority with a user, as it is written before the host, and the host and the port. -/
def authorityOf (user : List Char) (host : Host) (port : Option Nat) : Authority where
  user := percentEncode mustEscapeInUser (user.takeWhile (· ≠ ':'))
  password :=
    let password := (user.dropWhile (· ≠ ':')).drop 1
    if password = [] then none else some (percentEncode mustEscapeInUser password)
  host := host
  port := port

/-- Between what a text begins with and what follows its authority stands just this one. -/
def Names (scheme : String) (text : List Char) (authority : Authority) : Prop :=
  ∃ host port, Host.ofChars (splitHost false (splitUser text).2).1 = .ok host ∧
    readPort scheme ((splitHost false (splitUser text).2).2.drop 1) = .ok port ∧
    authority = authorityOf ((splitUser text).1.getD []) host port

theorem host_ne_name (h : Host.ofChars cs = .ok host) (name : List Char) : host ≠ .name name := by
  rintro rfl
  unfold Host.ofChars at h
  split at h
  · cases h
  · unfold Host.ofBrackets at h
    split at h <;> cases h
  · split at h
    · cases h
    · cases h
    · split_ifs at h
      · split at h <;> cases h
      · cases h

theorem splitHost_append (bracketed : Bool) (cs : List Char) :
    (splitHost bracketed cs).1 ++ (splitHost bracketed cs).2 = cs := by
  induction cs generalizing bracketed with
  | nil => rfl
  | cons c cs ih =>
    rw [splitHost]
    split_ifs
    · rfl
    all_goals simp [ih]

theorem splitUser_suffix (cs : List Char) : (splitUser cs).2 <:+ cs := by
  have hsuffix : (cs.reverse.takeWhile (· ≠ '@')).reverse <:+ cs := by
    have hprefix := List.takeWhile_prefix (· ≠ '@') (l := cs.reverse)
    simpa using List.reverse_suffix.mpr hprefix
  unfold splitUser
  extract_lets behind
  split_ifs
  · exact List.suffix_rfl
  · exact hsuffix

/-- The port of an address of the web holds no backslash, which would have ended the authority. -/
theorem no_backslash (htext : ∀ c ∈ text, endsAuthority true c = false) :
    ∀ c ∈ (splitHost false (splitUser text).2).2, c ≠ '\\' := by
  rintro c hc rfl
  have hmem : '\\' ∈ (splitUser text).2 := by
    rw [← splitHost_append false (splitUser text).2]
    exact List.mem_append_right _ hc
  exact absurd (htext '\\' ((splitUser_suffix text).mem hmem)) (by decide)

/-- On the web a user without a host needs no rule of its own, and no host is a mere name. -/
theorem readAuthority_append (hweb : isWeb scheme = true)
    (htext : ∀ c ∈ text, endsAuthority true c = false)
    (hrest : ∀ c, rest.head? = some c → endsAuthority true c = true) :
    readAuthority scheme (text ++ rest) = do
      let host ← (Host.ofChars (splitHost false (splitUser text).2).1).mapError ReadError.host
      let port ← readPort scheme ((splitHost false (splitUser text).2).2.drop 1)
      return (authorityOf ((splitUser text).1.getD []) host port, rest) := by
  have htake : (text ++ rest).takeWhile (!endsAuthority true ·) = text :=
    takeWhile_beginning (by simpa using htext) (by simpa using hrest)
  have hdrop : (text ++ rest).dropWhile (!endsAuthority true ·) = rest :=
    dropWhile_beginning (by simpa using htext) (by simpa using hrest)
  have hparts := splitHost_append false (splitUser text).2
  have hbackslash := no_backslash htext
  rw [readAuthority, hweb]
  simp only [htake, hdrop, readHost, hweb, reduceIte]
  generalize (splitUser text).1 = user
  generalize (splitUser text).2 = behind at *
  generalize (splitHost false behind).1 = hostPart at *
  generalize (splitHost false behind).2 = portPart at *
  have hport : (portPart.drop 1).takeWhile (· ≠ '\\') = portPart.drop 1 := by
    rw [List.takeWhile_eq_self_iff]
    intro c hc
    simpa using hbackslash c (List.mem_of_mem_drop hc)
  have hnone : portPart.dropWhile (· ≠ '\\') = [] := by
    rw [List.dropWhile_eq_nil_iff]
    intro c hc
    simpa using hbackslash c hc
  rw [hport, hnone]
  by_cases hlone : user = some [] ∧ behind = [] ∧ rest ≠ []
  · obtain ⟨rfl, -⟩ := List.append_eq_nil_iff.mp (hparts.trans hlone.2.1)
    rw [if_pos hlone]
    rfl
  · rw [if_neg hlone]
    cases hhost : Host.ofChars hostPart with
    | error e => rfl
    | ok host =>
      simp only [Except.mapError, bind, Except.bind, host_ne_name hhost, false_and, if_false]
      rfl

theorem readAuthority_eq_ok_iff (hweb : isWeb scheme = true)
    (htext : ∀ c ∈ text, endsAuthority true c = false)
    (hrest : ∀ c, rest.head? = some c → endsAuthority true c = true) :
    readAuthority scheme (text ++ rest) = .ok (authority, path) ↔
      Names scheme text authority ∧ path = rest := by
  rw [readAuthority_append hweb htext hrest]
  unfold Names
  cases Host.ofChars (splitHost false (splitUser text).2).1 with
  | error e => simp [Except.mapError, bind, Except.bind]
  | ok host =>
    cases readPort scheme ((splitHost false (splitUser text).2).2.drop 1) with
    | error e => simp [Except.mapError, bind, Except.bind]
    | ok port =>
      simp only [Except.mapError, bind, Except.bind, pure, Except.pure, Except.ok.injEq,
        Prod.mk.injEq, exists_and_left, exists_eq_left']
      rw [eq_comm, eq_comm (a := rest)]

theorem Names.unique {authority' : Authority} (h : Names scheme text authority)
    (h' : Names scheme text authority') : authority' = authority := by
  obtain ⟨host, port, hhost, hport, rfl⟩ := h
  obtain ⟨host', port', hhost', hport', rfl⟩ := h'
  obtain rfl := Except.ok.inj (hhost.symm.trans hhost')
  obtain rfl := Except.ok.inj (hport.symm.trans hport')
  rfl

theorem Names.ne_nil (h : Names scheme text authority) : text ≠ [] := by
  rintro rfl
  obtain ⟨host, port, hhost, -⟩ := h
  cases hhost

end Authority

/-! ### Addresses of the web -/

section Web

variable {base : String} {a b : Address}

theorem isWeb_of_mem : scheme ∈ ["http", "https"] → scheme ≠ "file" ∧ isWeb scheme = true := by
  revert scheme
  decide

def opening (scheme : String) : List Char := scheme.toList ++ [':', '/', '/']

theorem opening_ne_nil : opening scheme ≠ [] := by
  simp [opening]

theorem opening_append (scheme : String) (cs : List Char) :
    opening scheme ++ cs = scheme.toList ++ ':' :: '/' :: '/' :: cs := by
  simp [opening]

theorem plain_of_mem_opening (hscheme : scheme ∈ ["http", "https"]) (hc : c ∈ opening scheme) :
    isBlank c = false ∧ endsPath c = false := by
  have hopening : (opening scheme).all (fun c => !isBlank c && !endsPath c) = true := by
    clear hc
    revert scheme
    decide
  simpa using List.all_eq_true.mp hopening c hc

theorem endsPath_of_isSlash (h : isSlash true c = true) : endsPath c = false := by
  simp only [isSlash, Bool.or_eq_true, Bool.true_and, decide_eq_true_eq] at h
  rcases h with rfl | rfl <;> rfl

theorem scheme?_web (h : scheme ∈ ["http", "https"]) (cs : List Char) :
    scheme? (scheme.toList ++ ':' :: cs) = some (scheme, cs) := by
  have hcolon : isSchemeChar ':' = false := by decide
  have hfacts : scheme.toList ≠ [] ∧ scheme.toList.all isSchemeChar = true ∧
      scheme.toList.all Text.isAsciiLetter = true ∧ Text.lowerAscii scheme = scheme := by
    revert scheme
    decide
  obtain ⟨hne, hchars, hletters, hlower⟩ := hfacts
  rw [List.all_eq_true] at hchars hletters
  have hend : ∀ c, (':' :: cs).head? = some c → isSchemeChar c = false := by simp [hcolon]
  have htake := takeWhile_beginning hchars hend
  have hdrop := dropWhile_beginning hchars hend
  unfold scheme?
  rw [htake, hdrop, String.ofList_toList, hlower]
  obtain ⟨c, letters, hscheme⟩ := List.exists_cons_of_ne_nil hne
  rw [hscheme] at hletters ⊢
  simp [hletters c List.mem_cons_self]

/-- Of the slashes that an address of the web starts with it does not matter how many there are. -/
theorem ofText_eq_ok_iff (hscheme : scheme ∈ ["http", "https"]) {text : String}
    {slashes core : List Char} (htext : cleaned text.toList = opening scheme ++ (slashes ++ core))
    (hslashes : ∀ c ∈ slashes, isSlash true c = true)
    (hcore : ∀ c, core.head? = some c → isSlash true c = false) :
    ofText text = .ok a ↔ ∃ authority rest,
      readAuthority scheme core = .ok (authority, rest) ∧
        a = readBehind scheme authority rest := by
  obtain ⟨hfile, hweb⟩ := isWeb_of_mem hscheme
  have hslash : isSlash true '/' = true := rfl
  rw [ofText, htext, opening_append, scheme?_web hscheme]
  simp only [readScheme, hfile, hweb, if_false, if_true, List.dropWhile_cons, hslash,
    dropWhile_beginning hslashes hcore]
  cases readAuthority scheme core with
  | error e =>
    constructor
    · intro h
      cases h
    · rintro ⟨authority, rest, h, -⟩
      cases h
  | ok read =>
    obtain ⟨authority, rest⟩ := read
    constructor
    · intro h
      cases h
      exact ⟨authority, rest, rfl, rfl⟩
    · rintro ⟨authority', rest', h, rfl⟩
      cases h
      rfl

def kept (text : String) : List Char := text.toList.filter (!isIgnored ·)

/-- How an address of the web is laid out, so that it is known how it goes on. -/
structure Layout (base : String) where
  scheme : String
  /-- The scheme and the slashes behind it. -/
  front : List Char
  /-- The authority as it is written. -/
  text : List Char
  /-- What stands behind the authority. -/
  rest : List Char
  /-- What is dropped at the end. -/
  blanks : List Char
  authority : Authority
  web : isWeb scheme = true
  kept_eq : kept base = front ++ text ++ rest ++ blanks
  front_plain : ∀ c ∈ front, endsPath c = false
  text_plain : ∀ c ∈ text, endsAuthority true c = false
  rest_start : ∀ c, rest.head? = some c → endsAuthority true c = true
  blanks_blank : ∀ c ∈ blanks, isBlank c = true
  last : ∀ c, (text ++ rest).getLast? = some c → isBlank c = false
  names : Names scheme text authority
  extended : ∀ (path : String) (a : Address), path ≠ "" →
    (∀ c ∈ path.toList, isBlank c = false) → (ofText (base ++ path) = .ok a ↔
      ∃ authority rest', readAuthority scheme (text ++ rest ++ blanks ++ path.toList) =
        .ok (authority, rest') ∧ a = readBehind scheme authority rest')

def Layout.address (l : Layout base) : Address := readBehind l.scheme l.authority l.rest

theorem exists_scheme_of_hasWebScheme (h : hasWebScheme base = true) :
    ∃ scheme ∈ ["http", "https"], ∃ tail, base.toList = opening scheme ++ tail := by
  rw [hasWebScheme, Bool.or_eq_true, List.isPrefixOf_iff_prefix, List.isPrefixOf_iff_prefix] at h
  rcases h with ⟨tail, htail⟩ | ⟨tail, htail⟩
  · exact ⟨"http", by simp, tail, htail.symm⟩
  · exact ⟨"https", by simp, tail, htail.symm⟩

/-- How a text that starts like an address of the web is written: with slashes, with what names the
authority, with what stands behind it, and with blanks, which only what is put behind them keeps. -/
structure Written (base scheme : String) (slashes text rest blanks : List Char) : Prop where
  scheme_mem : scheme ∈ ["http", "https"]
  kept_eq : kept base = opening scheme ++ slashes ++ text ++ rest ++ blanks
  slashes_slash : ∀ c ∈ slashes, isSlash true c = true
  core_start : ∀ c, (text ++ rest).head? = some c → isSlash true c = false
  text_plain : ∀ c ∈ text, endsAuthority true c = false
  rest_start : ∀ c, rest.head? = some c → endsAuthority true c = true
  blanks_blank : ∀ c ∈ blanks, isBlank c = true
  last : ∀ c, (text ++ rest).getLast? = some c → isBlank c = false
  cleaned_eq : cleaned base.toList = opening scheme ++ (slashes ++ (text ++ rest))
  cleaned_append : ∀ path : String, path ≠ "" → (∀ c ∈ path.toList, isBlank c = false) →
    cleaned (base ++ path).toList =
      opening scheme ++ (slashes ++ (text ++ rest ++ blanks ++ path.toList))

theorem exists_written (h : hasWebScheme base = true) :
    ∃ scheme slashes text rest blanks, Written base scheme slashes text rest blanks := by
  obtain ⟨scheme, hscheme, tail, hbase⟩ := exists_scheme_of_hasWebScheme h
  have hnoblank : ∀ c ∈ opening scheme, isBlank c = false :=
    fun c hc => (plain_of_mem_opening hscheme hc).1
  obtain ⟨body, blanks, hkept, hblanks, hclean, hlast, hmore⟩ :=
    exists_cleaned opening_ne_nil hnoblank tail
  obtain ⟨slashes, core, rfl, hslashes, hcore⟩ := exists_beginning (isSlash true) body
  obtain ⟨text, rest, rfl, htext, hrest⟩ := exists_beginning (!endsAuthority true ·) core
  refine ⟨scheme, slashes, text, rest, blanks, hscheme, ?_, hslashes, hcore, by simpa using htext,
    by simpa using hrest, hblanks, fun c hc => hlast c ?_, ?_, fun path hpath hplain => ?_⟩
  · rw [kept, hbase, List.filter_append, filter_isIgnored hnoblank, hkept]
    simp only [List.append_assoc]
  · rw [List.getLast?_append, List.getLast?_append, hc]
    rfl
  · rw [hbase, hclean]
  · rw [String.toList_append, hbase, hmore _ (by simpa using hpath) hplain]
    simp only [List.append_assoc]

namespace Written

variable {slashes text blanks : List Char} {authority : Authority}

theorem isWeb (w : Written base scheme slashes text rest blanks) : isWeb scheme = true :=
  (isWeb_of_mem w.scheme_mem).2

theorem front_plain (w : Written base scheme slashes text rest blanks) :
    ∀ c ∈ opening scheme ++ slashes, endsPath c = false := by
  intro c hc
  rcases List.mem_append.mp hc with hc | hc
  · exact (plain_of_mem_opening w.scheme_mem hc).2
  · exact endsPath_of_isSlash (w.slashes_slash c hc)

theorem ofText_eq_ok_iff (w : Written base scheme slashes text rest blanks) :
    ofText base = .ok a ↔
      ∃ authority, Names scheme text authority ∧ a = readBehind scheme authority rest := by
  rw [Address.ofText_eq_ok_iff w.scheme_mem w.cleaned_eq w.slashes_slash w.core_start]
  simp only [readAuthority_eq_ok_iff w.isWeb w.text_plain w.rest_start]
  constructor
  · rintro ⟨authority, -, ⟨hnames, rfl⟩, rfl⟩
    exact ⟨authority, hnames, rfl⟩
  · rintro ⟨authority, hnames, rfl⟩
    exact ⟨authority, rest, ⟨hnames, rfl⟩, rfl⟩

/-- What is put behind an address that names its authority is read with it. -/
theorem ofText_append_eq_ok_iff (w : Written base scheme slashes text rest blanks)
    (hnames : Names scheme text authority) {path : String} (hpath : path ≠ "")
    (hplain : ∀ c ∈ path.toList, isBlank c = false) : ofText (base ++ path) = .ok a ↔
      ∃ authority rest', readAuthority scheme (text ++ rest ++ blanks ++ path.toList) =
        .ok (authority, rest') ∧ a = readBehind scheme authority rest' := by
  refine Address.ofText_eq_ok_iff w.scheme_mem (w.cleaned_append path hpath hplain)
    w.slashes_slash fun c hc => w.core_start c ?_
  obtain ⟨d, ds, htext⟩ := List.exists_cons_of_ne_nil hnames.ne_nil
  rw [htext] at hc ⊢
  exact hc

end Written

theorem exists_layout (hbase : hasWebScheme base = true) (hb : ofText base = .ok b) :
    ∃ l : Layout base, l.address = b := by
  obtain ⟨scheme, slashes, text, rest, blanks, w⟩ := exists_written hbase
  obtain ⟨authority, hnames, rfl⟩ := w.ofText_eq_ok_iff.mp hb
  exact ⟨{
    scheme := scheme
    front := opening scheme ++ slashes
    text := text
    rest := rest
    blanks := blanks
    authority := authority
    web := w.isWeb
    kept_eq := w.kept_eq
    front_plain := w.front_plain
    text_plain := w.text_plain
    rest_start := w.rest_start
    blanks_blank := w.blanks_blank
    last := w.last
    names := hnames
    extended := fun _ _ hpath hplain => w.ofText_append_eq_ok_iff hnames hpath hplain }, rfl⟩

end Web

end AgentFleet.Address
