import Mathlib.Data.List.Basic

/-!
# `net/url.Parse`

`http.NewRequestWithContext` parses the URL string the client formats with `fmt.Sprintf`, so a
request is built exactly when `url.Parse` accepts that string, and the registry sees the parsed
path. This module follows Go's `url.Parse` on the byte string, here a list of characters:

* cut the fragment at the first `#`, reject control characters, split off the scheme
  (`getScheme`), the query (at the first `?`, or a lone trailing `?` for `ForceQuery`), then the
  authority after `//` up to the next `/`;
* `parseAuthority` splits the userinfo at the last `@`, and `parseHost` checks the port after the
  last `:` (after the closing `]` of a bracketed host) and the characters a host may hold;
* the path, the fragment and the userinfo are percent-decoded by `unescape`, which rejects a `%`
  not followed by two hex digits.

Left out: `RawPath`/`RawFragment` (the escaped forms Go keeps beside the decoded ones), the
zone of an IPv6 literal, and the split of the userinfo into name and password. Decoding `%XX`
yields the character with code `XX`.
-/

namespace SchemaOperator

/-- `url.URL`. `rootless` is Go's `Opaque`: the rest of a URL with a scheme whose path does not
start with `/`. -/
structure URL where
  scheme : List Char
  rootless : List Char
  user : Option (List Char)
  host : List Char
  path : List Char
  rawQuery : List Char
  forceQuery : Bool
  fragment : List Char
  omitHost : Bool
deriving DecidableEq, Repr

namespace URL

/-- The URL with every field empty. -/
def blank : URL := ⟨[], [], none, [], [], [], false, [], false⟩

/-- `strings.Cut`: the text before the first `sep`, and the text after it when there is one. -/
def cut (sep : Char) : List Char → List Char × Option (List Char)
  | [] => ([], none)
  | c :: cs => if c = sep then ([], some cs) else ((c :: (cut sep cs).1), (cut sep cs).2)

/-- The byte tests of `net/url` (`'a' <= c && c <= 'z'` and the like), on character codes. -/
def inRange (lo hi : Nat) (c : Char) : Bool := lo ≤ c.toNat && c.toNat ≤ hi

/-- `'0' <= c && c <= '9'`. -/
def isDigit (c : Char) : Bool := inRange 48 57 c

/-- An ASCII letter. -/
def isLetter (c : Char) : Bool := inRange 65 90 c || inRange 97 122 c

/-- `stringContainsCTLByte`: a byte below space, or DEL. -/
def isCTL (c : Char) : Bool := c.toNat < 0x20 || c.toNat = 0x7f

/-- `ishex`. -/
def isHex (c : Char) : Bool := isDigit c || inRange 97 102 c || inRange 65 70 c

/-- `unhex`. -/
def unhex (c : Char) : Nat :=
  if isDigit c then c.toNat - 48
  else if inRange 97 102 c then c.toNat - 97 + 10
  else c.toNat - 65 + 10

/-- `unescape(s, encodePath)`, also used for fragments and userinfo: every `%` must start a
`%XX` escape, which is decoded; every other character is kept. -/
def unescape : List Char → Except String (List Char)
  | [] => .ok []
  | c :: cs =>
    if c = '%' then
      match cs with
      | a :: b :: rest =>
        if isHex a && isHex b then (unescape rest).map (Char.ofNat (16 * unhex a + unhex b) :: ·)
        else .error "invalid URL escape"
      | _ => .error "invalid URL escape"
    else (unescape cs).map (c :: ·)

/-- A character of a scheme after its first letter. -/
def isSchemeChar (c : Char) : Bool :=
  isLetter c || isDigit c || c.toNat ∈ [43, 45, 46]

/-- The loop of `getScheme` after the first letter: the rest of the scheme and what follows
the `:`, or `none` when a character that cannot be in a scheme comes first. -/
def schemeRest : List Char → Option (List Char × List Char)
  | [] => none
  | c :: cs =>
    if c = ':' then some ([], cs)
    else if isSchemeChar c then (schemeRest cs).map fun p => (c :: p.1, p.2)
    else none

/-- `getScheme`. -/
def getScheme : List Char → Except String (List Char × List Char)
  | [] => .ok ([], [])
  | c :: cs =>
    if c = ':' then .error "missing protocol scheme"
    else if isLetter c then
      match schemeRest cs with
      | some (s, rest) => .ok (c :: s, rest)
      | none => .ok ([], c :: cs)
    else .ok ([], c :: cs)

/-- The query split of `parse`: the rest, `RawQuery` and `ForceQuery`. -/
def splitQuery (rest : List Char) : List Char × List Char × Bool :=
  if rest.getLast? = some '?' ∧ rest.count '?' = 1 then (rest.dropLast, [], true)
  else ((cut '?' rest).1, (cut '?' rest).2.getD [], false)

/-- `validOptionalPort`. -/
def validOptionalPort : List Char → Bool
  | [] => true
  | ':' :: ds => ds.all isDigit
  | _ => false

/-- `!shouldEscape(c, encodeHost)` for an ASCII character: what a host may hold unescaped. -/
def hostChar (c : Char) : Bool :=
  isLetter c || isDigit c ||
    c.toNat ∈ [45, 95, 46, 126, 33, 36, 38, 39, 40, 41, 42, 43, 44, 59, 61, 58, 91, 93, 60, 62, 34]

/-- `unescape(s, encodeHost)`: a `%XX` escape only for a byte of 0x80 or more (or `%25`), and no
ASCII character that `shouldEscape` in a host. -/
def unescapeHost : List Char → Except String (List Char)
  | [] => .ok []
  | c :: cs =>
    if c = '%' then
      match cs with
      | a :: b :: rest =>
        if isHex a && isHex b && (8 ≤ unhex a || (a = '2' && b = '5')) then
          (unescapeHost rest).map (Char.ofNat (16 * unhex a + unhex b) :: ·)
        else .error "invalid URL escape"
      | _ => .error "invalid URL escape"
    else if c.toNat < 0x80 && !hostChar c then .error "invalid character in host name"
    else (unescapeHost cs).map (c :: ·)

/-- `strings.LastIndex`: the text from the last occurrence of `c` on, or `none`. -/
def lastFrom (c : Char) : List Char → Option (List Char)
  | [] => none
  | d :: ds =>
    match lastFrom c ds with
    | some t => some t
    | none => if d = c then some (d :: ds) else none

/-- `parseHost`, without the zone of an IPv6 literal. -/
def parseHost (host : List Char) : Except String (List Char) :=
  if host.head? = some '[' then
    match lastFrom ']' host with
    | none => .error "missing ']' in host"
    | some tail =>
      if validOptionalPort tail.tail then unescapeHost host
      else .error "invalid port after host"
  else
    match lastFrom ':' host with
    | some colonPort =>
      if validOptionalPort colonPort then unescapeHost host
      else .error "invalid port after host"
    | none => unescapeHost host

/-- `validUserinfo`. -/
def validUserinfo (s : List Char) : Bool :=
  s.all fun c => isLetter c || isDigit c ||
    c.toNat ∈ [45, 46, 95, 58, 126, 33, 36, 38, 39, 40, 41, 42, 43, 44, 59, 61, 37, 64]

/-- `parseAuthority`: the userinfo before the last `@`, and the host. -/
def parseAuthority (authority : List Char) : Except String (Option (List Char) × List Char) :=
  match lastFrom '@' authority with
  | none => (parseHost authority).map fun h => (none, h)
  | some tail => do
    let host ← parseHost tail.tail
    let info := authority.take (authority.length - tail.length)
    if validUserinfo info then
      let user ← unescape info
      pure (some user, host)
    else .error "net/url: invalid userinfo"

/-- `parse(rawURL, false)`: everything but the fragment. -/
def parseRef (raw : List Char) : Except String URL :=
  if raw.any isCTL then .error "net/url: invalid control character in URL"
  else if raw = ['*'] then .ok { blank with path := ['*'] }
  else do
    let (scheme, rest) ← getScheme raw
    let scheme := scheme.map Char.toLower
    let (rest, rawQuery, forceQuery) := splitQuery rest
    let base : URL := { blank with scheme, rawQuery, forceQuery }
    if rest.head? ≠ some '/' ∧ scheme ≠ [] then
      pure { base with rootless := rest }
    else if rest.head? ≠ some '/' ∧ (cut '/' rest).1.contains ':' then
      .error "first path segment in URL cannot contain colon"
    else if (scheme ≠ [] ∨ ¬ ['/', '/', '/'].isPrefixOf rest) ∧ ['/', '/'].isPrefixOf rest then
      let (authority, rest) := match cut '/' (rest.drop 2) with
        | (a, some p) => (a, '/' :: p)
        | (a, none) => (a, [])
      let (user, host) ← parseAuthority authority
      let path ← unescape rest
      pure { base with user, host, path }
    else
      let path ← unescape rest
      pure { base with path, omitHost := scheme ≠ [] ∧ rest.head? = some '/' }

/-- `url.Parse`. -/
def parse (raw : List Char) : Except String URL :=
  match cut '#' raw with
  | (u, none) | (u, some []) => parseRef u
  | (u, some frag) => do
    let url ← parseRef u
    let fragment ← unescape frag
    pure { url with fragment }

/-- The segments of a path: the pieces between the `/`s after the leading one. -/
def segments : List Char → List (List Char)
  | '/' :: p => p.splitOn '/'
  | p => p.splitOn '/'

/-! ## Reading a well-formed URL -/

theorem cut_of_not_mem {sep : Char} {l : List Char} (h : sep ∉ l) : cut sep l = (l, none) := by
  induction l with
  | nil => rfl
  | cons c cs ih =>
    have hc : c ≠ sep := fun e => h (e ▸ List.mem_cons_self c cs)
    simp [cut, hc, ih (fun m => h (List.mem_cons_of_mem c m))]

theorem cut_append_cons {sep : Char} {a b : List Char} (h : sep ∉ a) :
    cut sep (a ++ sep :: b) = (a, some b) := by
  induction a with
  | nil => simp [cut]
  | cons c cs ih =>
    have hc : c ≠ sep := fun e => h (e ▸ List.mem_cons_self c cs)
    simp [cut, hc, ih (fun m => h (List.mem_cons_of_mem c m))]

@[simp] theorem unescape_nil : unescape [] = .ok [] := rfl

theorem unescape_cons_of_ne {c : Char} (cs : List Char) (hc : c ≠ '%') :
    unescape (c :: cs) = (unescape cs).map (c :: ·) := by
  rw [unescape.eq_def]; simp [hc]

theorem unescape_escape {a b : Char} (rest : List Char) (hab : (isHex a && isHex b) = true) :
    unescape ('%' :: a :: b :: rest) =
      (unescape rest).map (Char.ofNat (16 * unhex a + unhex b) :: ·) := by
  rw [unescape.eq_def]; simp [hab]

theorem unescape_of_not_mem {y : List Char} (h : '%' ∉ y) : unescape y = .ok y := by
  induction y with
  | nil => rfl
  | cons c cs ih =>
    have hc : c ≠ '%' := fun e => h (e ▸ List.mem_cons_self c cs)
    rw [unescape_cons_of_ne cs hc, ih (fun m => h (List.mem_cons_of_mem c m))]
    rfl

theorem unescape_append : ∀ (x : List Char) {x' : List Char} (y : List Char),
    unescape x = .ok x' → unescape (x ++ y) = (unescape y).map (x' ++ ·)
  | [], x', y, h => by cases h; rw [List.nil_append]; cases unescape y <;> rfl
  | c :: cs, x', y, h => by
    by_cases hc : c = '%'
    · subst hc
      match cs, h with
      | a :: b :: rest, h =>
        by_cases hab : (isHex a && isHex b) = true
        · rw [unescape_escape rest hab] at h
          cases hr : unescape rest with
          | error e => rw [hr] at h; cases h
          | ok r =>
            rw [hr] at h
            cases h
            rw [List.cons_append, List.cons_append, List.cons_append,
              unescape_escape _ hab, unescape_append rest y hr]
            cases unescape y <;> rfl
        · rw [unescape.eq_def] at h; simp [hab] at h
      | [], h => rw [unescape.eq_def] at h; simp at h
      | [_], h => rw [unescape.eq_def] at h; simp at h
    · rw [unescape_cons_of_ne cs hc] at h
      cases hr : unescape cs with
      | error e => rw [hr] at h; cases h
      | ok r =>
        rw [hr] at h
        cases h
        rw [List.cons_append, unescape_cons_of_ne _ hc, unescape_append cs y hr]
        cases unescape y <;> rfl

theorem unescape_append_plain {x x' y : List Char} (hx : unescape x = .ok x') (hy : '%' ∉ y) :
    unescape (x ++ y) = .ok (x' ++ y) := by
  rw [unescape_append x y hx, unescape_of_not_mem hy]; rfl

/-! ## Characters -/

/-- A character that keeps a path tail a path: no `?` (query), `#` (fragment), `%` (escape) or
control character. -/
def pathChar (c : Char) : Bool := c.toNat ≠ 63 && c.toNat ≠ 35 && c.toNat ≠ 37 && !isCTL c

/-- A character that stays inside one path segment: a `pathChar` other than `/`. -/
def plainChar (c : Char) : Bool := c.toNat ≠ 47 && pathChar c

/-- A character of an accepted host is not one of the delimiters `/ ? # @`, and not a control
character. -/
def hostSafe (c : Char) : Prop :=
  c.toNat ≠ 47 ∧ c.toNat ≠ 63 ∧ c.toNat ≠ 35 ∧ c.toNat ≠ 64 ∧ isCTL c = false

theorem hostSafe_of_code {c : Char} (h : 32 ≤ c.toNat ∧ c.toNat ≠ 127 ∧ c.toNat ≠ 47 ∧
    c.toNat ≠ 63 ∧ c.toNat ≠ 35 ∧ c.toNat ≠ 64) : hostSafe c := by
  simp only [hostSafe, isCTL, Bool.or_eq_false_iff, decide_eq_false_iff_not]
  omega

theorem hostSafe_of_hostChar {c : Char} (h : hostChar c = true) : hostSafe c := by
  apply hostSafe_of_code
  simp only [hostChar, isLetter, isDigit, inRange, Bool.or_eq_true, Bool.and_eq_true,
    decide_eq_true_eq, List.mem_cons, List.mem_singleton, List.not_mem_nil, or_false] at h
  omega

theorem hostSafe_of_high {c : Char} (h : ¬c.toNat < 0x80) : hostSafe c :=
  hostSafe_of_code (by omega)

theorem isHex_hostSafe {c : Char} (h : isHex c = true) : hostSafe c := by
  apply hostSafe_of_code
  simp only [isHex, isDigit, inRange, Bool.or_eq_true, Bool.and_eq_true, decide_eq_true_eq] at h
  omega

theorem unescapeHost_hostSafe : ∀ {l h : List Char}, unescapeHost l = .ok h → ∀ c ∈ l, hostSafe c
  | [], _, _, c, hc => nomatch hc
  | c :: cs, h, hl, d, hd => by
    rw [unescapeHost.eq_def] at hl
    by_cases pct : c = '%'
    · subst pct
      match cs, hl with
      | a :: b :: rest, hl =>
        simp only [if_true] at hl
        split at hl
        · next hab =>
          simp only [Bool.and_eq_true] at hab
          cases hr : unescapeHost rest with
          | error e => rw [hr] at hl; cases hl
          | ok r =>
            simp only [List.mem_cons] at hd
            rcases hd with rfl | rfl | rfl | hd
            · exact hostSafe_of_code (by decide)
            · exact isHex_hostSafe hab.1.1
            · exact isHex_hostSafe hab.1.2
            · exact unescapeHost_hostSafe hr d hd
        · cases hl
      | [], hl => simp at hl
      | [_], hl => simp at hl
    · simp only [pct, if_false] at hl
      split at hl
      · cases hl
      · next hok =>
        cases hr : unescapeHost cs with
        | error e => rw [hr] at hl; cases hl
        | ok r =>
          simp only [List.mem_cons] at hd
          rcases hd with rfl | hd
          · by_cases high : d.toNat < 0x80
            · exact hostSafe_of_hostChar (by simpa [high] using hok)
            · exact hostSafe_of_high high
          · exact unescapeHost_hostSafe hr d hd

theorem parseHost_ok {l h : List Char} (hl : parseHost l = .ok h) : unescapeHost l = .ok h := by
  unfold parseHost at hl
  split at hl
  · split at hl
    · cases hl
    · split at hl
      · exact hl
      · cases hl
  · split at hl
    · split at hl
      · exact hl
      · cases hl
    · exact hl

/-! ## Base URLs -/

/-- A base URL `scheme://host[:port][/path]` without userinfo, query or fragment: a scheme, an
authority that `parseHost` accepts, and a path that is empty or starts with `/`, holds no `?`,
`#` or control character and whose escapes decode to `path`. -/
structure BaseURL where
  scheme : List Char
  authority : List Char
  rawPath : List Char
  host : List Char
  path : List Char
  scheme_start : ∃ c cs, scheme = c :: cs ∧ isLetter c = true ∧ cs.all isSchemeChar = true
  authority_host : parseHost authority = .ok host
  path_start : rawPath = [] ∨ rawPath.head? = some '/'
  path_chars : ∀ c ∈ rawPath, pathChar c = true ∨ c = '%'
  path_unescape : unescape rawPath = .ok path

/-- The base URL as the string `spec.url` holds. -/
def BaseURL.render (b : BaseURL) : List Char :=
  b.scheme ++ ':' :: '/' :: '/' :: (b.authority ++ b.rawPath)

theorem schemeRest_append {cs rest : List Char} (h : cs.all isSchemeChar = true) :
    schemeRest (cs ++ ':' :: rest) = some (cs, rest) := by
  induction cs with
  | nil => simp [schemeRest]
  | cons c cs ih =>
    simp only [List.all_cons, Bool.and_eq_true] at h
    have hc : c ≠ ':' := by
      rintro rfl; simp [isSchemeChar, isLetter, isDigit, inRange] at h
    simp [schemeRest, hc, h.1, ih h.2]

theorem lastFrom_none {c : Char} {l : List Char} (h : c ∉ l) : lastFrom c l = none := by
  induction l with
  | nil => rfl
  | cons d ds ih =>
    have hd : d ≠ c := fun e => h (e ▸ List.mem_cons_self d ds)
    simp [lastFrom, ih (fun m => h (List.mem_cons_of_mem d m)), hd]

/-- `url.Parse` of a base URL followed by a path tail that is empty or starts with `/` and holds
no `?`, `#`, `%` or control character: no query, no fragment, and the base's decoded path
followed by the tail. -/
theorem parse_render_append (b : BaseURL) {t : List Char} (ht : t = [] ∨ t.head? = some '/')
    (htc : ∀ c ∈ t, pathChar c = true) :
    parse (b.render ++ t) =
      .ok { blank with scheme := b.scheme.map Char.toLower, host := b.host, path := b.path ++ t } := by
  obtain ⟨c, cs, hs, hc, hcs⟩ := b.scheme_start
  have hauth := unescapeHost_hostSafe (parseHost_ok b.authority_host)
  -- no `#`, `?` or control character anywhere
  have clean : ∀ d ∈ b.render ++ t, d.toNat ≠ 35 ∧ d.toNat ≠ 63 ∧ isCTL d = false := by
    intro d m
    simp only [BaseURL.render, hs, List.cons_append, List.append_assoc, List.mem_cons,
      List.mem_append] at m
    simp only [isCTL, Bool.or_eq_false_iff, decide_eq_false_iff_not]
    rcases m with rfl | m | rfl | rfl | rfl | m | m | m
    · simp only [isLetter, inRange, Bool.or_eq_true, Bool.and_eq_true, decide_eq_true_eq] at hc
      omega
    · have := List.all_eq_true.mp hcs d m
      simp only [isSchemeChar, isLetter, isDigit, inRange, Bool.or_eq_true, Bool.and_eq_true,
        decide_eq_true_eq, List.mem_cons, List.mem_singleton, List.not_mem_nil, or_false] at this
      omega
    all_goals try decide
    · have := hauth d m
      simp only [hostSafe, isCTL, Bool.or_eq_false_iff, decide_eq_false_iff_not] at this
      omega
    · rcases b.path_chars d m with h | rfl
      · simp only [pathChar, isCTL, Bool.and_eq_true, Bool.not_eq_true', Bool.or_eq_false_iff,
          decide_eq_true_eq, decide_eq_false_iff_not] at h
        omega
      · decide
    · have := htc d m
      simp only [pathChar, isCTL, Bool.and_eq_true, Bool.not_eq_true', Bool.or_eq_false_iff,
        decide_eq_true_eq, decide_eq_false_iff_not] at this
      omega
  have noHash : '#' ∉ b.render ++ t := fun m => (clean _ m).1 rfl
  have noCTL : (b.render ++ t).any isCTL = false :=
    List.any_eq_false.mpr fun d m => by simp [(clean d m).2.2]
  set rest := b.authority ++ b.rawPath ++ t with hrest
  have hraw : b.render ++ t = c :: (cs ++ ':' :: '/' :: '/' :: rest) := by
    simp [BaseURL.render, hs, hrest]
  have hscheme : getScheme (b.render ++ t) = .ok (c :: cs, '/' :: '/' :: rest) := by
    have hc' : c ≠ ':' := by rintro rfl; simp [isLetter, inRange] at hc
    rw [hraw]; simp [getScheme, hc', hc, schemeRest_append hcs]
  have noQuery : '?' ∉ '/' :: '/' :: rest := fun m => (clean '?' (by
    rw [hraw]; exact List.mem_cons_of_mem _ (List.mem_append_right _ (List.mem_cons_of_mem _ m)))).2.1 rfl
  have hq : splitQuery ('/' :: '/' :: rest) = ('/' :: '/' :: rest, [], false) := by
    unfold splitQuery
    rw [if_neg (fun h => by simp [List.count_eq_zero_of_not_mem noQuery] at h), cut_of_not_mem noQuery]
    rfl
  -- the authority ends at the first `/`, where the path starts
  have hslash : '/' ∉ b.authority := fun m => (hauth '/' m).1 rfl
  have hcut : (match cut '/' rest with
      | (a, some p) => (a, '/' :: p)
      | (a, none) => (a, [])) = (b.authority, b.rawPath ++ t) := by
    rcases hp : b.rawPath ++ t with _ | ⟨d, p⟩
    · rw [hrest, List.append_assoc, hp, List.append_nil, cut_of_not_mem hslash]
    · have hd : d = '/' := by
        rcases b.path_start with h | h
        · rw [h, List.nil_append] at hp
          rcases ht with rfl | ht
          · cases hp
          · rw [hp] at ht; exact Option.some.inj ht
        · cases hr : b.rawPath with
          | nil => rw [hr] at h; cases h
          | cons e es => rw [hr] at h hp; cases h; exact (List.cons.inj hp).1.symm
      subst hd
      rw [hrest, List.append_assoc, hp, cut_append_cons hslash]
  have hauthority : parseAuthority b.authority = .ok (none, b.host) := by
    rw [parseAuthority, lastFrom_none (fun m => (hauth '@' m).2.2.2.1 rfl), b.authority_host]; rfl
  have hpath : unescape (b.rawPath ++ t) = .ok (b.path ++ t) :=
    unescape_append_plain b.path_unescape (fun m => by simpa [pathChar] using htc '%' m)
  rw [parse, cut_of_not_mem noHash]
  have hstar : b.render ++ t ≠ ['*'] := by rw [hraw]; simp
  simp only [parseRef, noCTL, Bool.false_eq_true, if_false, hstar, hscheme, bind, Except.bind, hq,
    List.drop_succ_cons, List.drop_zero, hcut, hauthority, hpath, pure, Except.pure]
  simp [hs, blank]

/-- `url.Parse` of a base URL on its own. -/
theorem parse_render (b : BaseURL) :
    parse b.render = .ok { blank with scheme := b.scheme.map Char.toLower, host := b.host, path := b.path } := by
  simpa using parse_render_append b (t := []) (.inl rfl) (by simp)

/-- The path of the segments `segs`: `/s₁/s₂/…`. -/
def pathOf (segs : List (List Char)) : List Char := '/' :: List.intercalate ['/'] segs

theorem segments_pathOf {segs : List (List Char)} (hne : segs ≠ [])
    (hs : ∀ seg ∈ segs, '/' ∉ seg) : segments (pathOf segs) = segs :=
  List.splitOn_intercalate segs '/' hs hne

end URL

end SchemaOperator
