import ControlGraph.ContractText

/-!
# Texts that look like a secret

Seven patterns recognise bearer tokens, signed tokens, private keys, provider
keys and labelled credentials. A pattern maps a position of a text to all the
positions at which a match from there may end, and a search tries every start.
The backend and the console use the same patterns with different ideas of a
word character, of whitespace and of letter case, which are a parameter. Where
two dialects agree on the characters of a text, they agree on the text.
-/

namespace ControlGraph.SecretPatterns

open ContractText

/-- Character classes of a pattern language. -/
structure Dialect where
  isWord : Char → Bool
  isSpace : Char → Bool
  foldCase : Char → Char

/-- A position: the character before it and the rest of the text. -/
abbrev Position := Option Char×List Char

/-- The ends of the matches that start at a position. -/
abbrev Pattern := Position → List Position

def character (test : Char → Bool) : Pattern
  | (_,next::rest) => if test next then [(some next,rest)] else []
  | (_,[]) => []

def nothing : Pattern := fun position => [position]

/-- One pattern after another. -/
def andThen (first second : Pattern) : Pattern := fun position => (first position).flatMap second

/-- One of some patterns. -/
def oneOf (patterns : List Pattern) : Pattern :=
  fun position => patterns.flatMap (fun pattern => pattern position)

/-- A pattern or nothing. -/
def optional (pattern : Pattern) : Pattern := oneOf [pattern,nothing]

/-- The characters of a text, one after another. -/
def literal (same : Char → Char → Bool) (text : String) : Pattern :=
  text.toList.foldr (fun letter rest => andThen (character (same letter)) rest) nothing

/-- At least some number of characters of a class. -/
def atLeast (test : Char → Bool) (minimum : Nat) (position : Position) : List Position :=
  go minimum position.1 position.2
where
  /-- Ends after the characters that are still to come. -/
  go : Nat → Option Char → List Char → List Position
    | minimum,previous,[] => if minimum=0 then [(previous,[])] else []
    | minimum,previous,next::rest =>
      (if minimum=0 then [(previous,next::rest)] else [])++
        if test next then go (minimum-1) (some next) rest else []

/-- Exactly some number of characters of a class. -/
def exactly (test : Char → Bool) : Nat → Pattern
  | 0 => nothing
  | count+1 => andThen (character test) (exactly test count)

def wordEdge (dialect : Dialect) : Pattern := fun position =>
  if position.1.any dialect.isWord != position.2.head?.any dialect.isWord then [position] else []

/-- Whether a pattern matches somewhere in the rest of a text. -/
def searchFrom (pattern : Pattern) : Option Char → List Char → Bool
  | previous,[] => !(pattern (previous,[])).isEmpty
  | previous,next::rest =>
    !(pattern (previous,next::rest)).isEmpty || searchFrom pattern (some next) rest

/-- Whether a pattern matches somewhere in a text. -/
def search (pattern : Pattern) (text : String) : Bool := searchFrom pattern none text.toList

section

variable (dialect : Dialect)

/-- Two characters are the same letter. -/
def exact (letter character : Char) : Bool := letter=character

/-- A character is a letter in either case. -/
def anyCase (letter character : Char) : Bool := letter=dialect.foldCase character

def isBearerCharacter (character : Char) : Bool :=
  isAlphanumeric character || ['.','_','~','+','/','=','-'].contains character

/-- Letters, digits, underscores and hyphens. -/
def isTokenLetter (character : Char) : Bool :=
  isAlphanumeric character || ['_','-'].contains character

def bearerPattern : Pattern :=
  andThen (wordEdge dialect) <| andThen (literal (anyCase dialect) "bearer") <|
    andThen (atLeast dialect.isSpace 1)
      (atLeast (fun character => isBearerCharacter (dialect.foldCase character)) 8)

/-- Three parts of a signed token. -/
def signedTokenPattern : Pattern :=
  andThen (wordEdge dialect) <| andThen (literal exact "eyJ") <| andThen (atLeast isTokenLetter 4) <|
    andThen (literal exact ".") <| andThen (atLeast isTokenLetter 4) <|
      andThen (literal exact ".") <| andThen (atLeast isTokenLetter 4) (wordEdge dialect)

/-- The first line of a private key. -/
def privateKeyPattern : Pattern :=
  andThen (literal exact "-----BEGIN ") <|
    andThen (optional (oneOf [literal exact "RSA ",literal exact "EC ",literal exact "OPENSSH "]))
      (literal exact "PRIVATE KEY-----")

def providerKeyPattern : Pattern :=
  andThen (wordEdge dialect) <| andThen (literal exact "AIza") <|
    andThen (exactly isTokenLetter 35) (wordEdge dialect)

def codeHostPattern : Pattern :=
  andThen (wordEdge dialect) <| andThen (literal exact "gh") <|
    andThen (character (fun letter => ['p','o','u','s','r'].contains letter)) <|
      andThen (literal exact "_") <|
        andThen (atLeast (fun character => isAlphanumeric character || character== '_') 30)
          (wordEdge dialect)

def accessTokenPattern : Pattern :=
  andThen (wordEdge dialect) <| andThen (literal exact "ya29.") <|
    andThen (atLeast isTokenLetter 20) (wordEdge dialect)

/-- A word in either case. -/
def word (text : String) : Pattern := literal (anyCase dialect) text

/-- Two words, joined by an underscore, a hyphen or nothing. -/
def twoWords (first second : String) : Pattern :=
  andThen (word dialect first) <|
    andThen (optional (character (fun letter => ['_','-'].contains letter))) (word dialect second)

def quotation : Pattern := character (fun letter => ['"',Char.ofNat 39].contains letter)

/-- The name of a credential before a colon or an equals sign. -/
def labelledPattern : Pattern :=
  andThen (optional quotation) <|
    andThen (oneOf
      [word dialect "authorization",word dialect "cookie",word dialect "set-cookie",
        word dialect "password",twoWords dialect "private" "key",twoWords dialect "client" "secret",
        twoWords dialect "access" "token",twoWords dialect "identity" "token",
        word dialect "signature",word dialect "capability",
        word dialect "x-goog-iap-jwt-assertion"]) <|
      andThen (optional quotation) <| andThen (atLeast dialect.isSpace 0)
        (character (fun letter => [':','='].contains letter))

def secretPatterns : List Pattern :=
  [bearerPattern dialect,signedTokenPattern dialect,privateKeyPattern,providerKeyPattern dialect,
    codeHostPattern dialect,accessTokenPattern dialect,labelledPattern dialect]

/-- Whether a text looks like a secret. -/
def isSecretShaped (value : String) : Bool :=
  (secretPatterns dialect).any (fun pattern => search pattern value)

end

def isAsciiWord (character : Char) : Bool := isAlphanumeric character || character== '_'

/-- Lowercase form of a letter of ASCII. -/
def asciiLower (character : Char) : Char :=
  if character ≥ 'A' && character ≤ 'Z' then Char.ofNat (character.toNat+32) else character

/-- The backend: word characters beyond ASCII are those of the Unicode tables,
and four letters beyond ASCII are the same as letters of ASCII in either case. -/
def backendDialect (isLetter : Char → Bool) : Dialect where
  isWord := fun character =>
    if character.toNat<128 then isAsciiWord character else isLetter character
  isSpace := isSpace
  foldCase := fun character =>
    if character.toNat=0x130 ∨ character.toNat=0x131 then 'i'
    else if character.toNat=0x17f then 's'
    else if character.toNat=0x212a then 'k'
    else asciiLower character

/-- Whitespace of the console's patterns. -/
def isConsoleSpace (character : Char) : Bool :=
  let code := character.toNat
  (9 ≤ code && code ≤ 13) || code==32 || code==0xa0 || code==0x1680 ||
    (0x2000 ≤ code && code ≤ 0x200a) || code==0x2028 || code==0x2029 || code==0x202f ||
    code==0x205f || code==0x3000 || code==0xfeff

/-- The console: word characters and letter case are those of ASCII. -/
def consoleDialect : Dialect where
  isWord := isAsciiWord
  isSpace := isConsoleSpace
  foldCase := asciiLower

/-- The text shown instead of a secret. -/
def redactedDisplayValue : String := "[REDACTED]"

section

variable {pattern first second : Pattern} {text : String}

/-- A pattern that never starts matches nothing. -/
theorem searchFrom_eq_false {previous : Option Char} {rest : List Char}
    (h : ∀ position,pattern position≠[] → first position≠[])
    (hfirst : searchFrom first previous rest=false) : searchFrom pattern previous rest=false := by
  have hempty : ∀ position,(first position).isEmpty=true → (pattern position).isEmpty=true := by
    intro position hposition
    by_contra hne
    exact h position (fun hnil => hne (by rw [hnil]; rfl)) (List.isEmpty_iff.mp hposition)
  induction rest generalizing previous with
  | nil =>
    unfold searchFrom at hfirst ⊢
    rw [Bool.not_eq_false'] at hfirst ⊢
    exact hempty _ hfirst
  | cons next rest ih =>
    unfold searchFrom at hfirst ⊢
    rw [Bool.or_eq_false_iff,Bool.not_eq_false'] at hfirst ⊢
    exact ⟨hempty _ hfirst.1,ih hfirst.2⟩

/-- Where a pattern is not found, nothing that starts with it is found. -/
theorem search_andThen (h : search first text=false) : search (andThen first second) text=false := by
  refine searchFrom_eq_false (fun position hne hnil => hne ?_) h
  rw [andThen,hnil,List.flatMap_nil]

theorem search_wordEdge (dialect : Dialect) (h : search second text=false) :
    search (andThen (wordEdge dialect) second) text=false := by
  refine searchFrom_eq_false (fun position hne hnil => hne ?_) h
  rw [andThen,wordEdge]
  split
  · rw [List.flatMap_cons,hnil,List.flatMap_nil,List.append_nil]
  · rfl

end

section

/-- Whether the characters at a position all pass a test. -/
def Within (test : Char → Prop) (position : Position) : Prop :=
  (∀ previous∈position.1,test previous) ∧ ∀ next∈position.2,test next

/-- Two patterns match alike among the characters of a test, and stay among them. -/
def SameOn (test : Char → Prop) (first second : Pattern) : Prop :=
  ∀ position,Within test position → first position=second position ∧
    ∀ stop∈first position,Within test stop

variable {test : Char → Prop} {first second third fourth : Pattern}

/-- Character classes that agree on the test match alike. -/
theorem sameOn_character {left right : Char → Bool} (h : ∀ next,test next → left next=right next) :
    SameOn test (character left) (character right) := by
  rintro ⟨previous,rest⟩ ⟨-,hrest⟩
  cases rest with
  | nil => exact ⟨rfl,fun stop hstop => (List.not_mem_nil hstop).elim⟩
  | cons next rest =>
    obtain ⟨hnext,htail⟩ := List.forall_mem_cons.mp hrest
    refine ⟨by simp only [character,h next hnext],?_⟩
    intro stop hstop
    simp only [character] at hstop
    split_ifs at hstop
    · rw [List.mem_singleton] at hstop
      subst hstop
      exact ⟨by rintro _ ⟨⟩; exact hnext,htail⟩
    · exact (List.not_mem_nil hstop).elim

theorem sameOn_nothing : SameOn test nothing nothing := by
  intro position hposition
  refine ⟨rfl,fun stop hstop => ?_⟩
  rw [nothing,List.mem_singleton] at hstop
  rwa [hstop]

/-- Sequences of patterns that match alike match alike. -/
theorem sameOn_andThen (hfirst : SameOn test first second) (hthird : SameOn test third fourth) :
    SameOn test (andThen first third) (andThen second fourth) := by
  intro position hposition
  obtain ⟨hsame,hwithin⟩ := hfirst position hposition
  constructor
  · rw [andThen,andThen,← hsame]
    exact List.flatMap_congr (fun stop hstop => (hthird stop (hwithin stop hstop)).1)
  · intro stop hstop
    obtain ⟨middle,hmiddle,hend⟩ := List.mem_flatMap.mp hstop
    exact (hthird middle (hwithin middle hmiddle)).2 stop hend

/-- Alternatives that match alike match alike. -/
theorem sameOn_oneOf {lefts rights : List Pattern} (h : List.Forall₂ (SameOn test) lefts rights) :
    SameOn test (oneOf lefts) (oneOf rights) := by
  intro position hposition
  induction h with
  | nil => exact ⟨rfl,fun stop hstop => (List.not_mem_nil hstop).elim⟩
  | cons hhead _ ih =>
    obtain ⟨hsame,hwithin⟩ := hhead position hposition
    refine ⟨congrArg₂ (· ++ ·) hsame ih.1,?_⟩
    intro stop hstop
    rcases List.mem_append.mp hstop with hfirst | hrest
    · exact hwithin stop hfirst
    · exact ih.2 stop hrest

theorem sameOn_optional (h : SameOn test first second) :
    SameOn test (optional first) (optional second) :=
  sameOn_oneOf (.cons h (.cons sameOn_nothing .nil))

/-- Literals under comparisons that agree on the test match alike. -/
theorem sameOn_literal {left right : Char → Char → Bool} (text : String)
    (h : ∀ letter next,test next → left letter next=right letter next) :
    SameOn test (literal left text) (literal right text) := by
  unfold literal
  induction text.toList with
  | nil => exact sameOn_nothing
  | cons letter letters ih => exact sameOn_andThen (sameOn_character (h letter)) ih

/-- Repetitions of classes that agree on the test match alike. -/
theorem sameOn_atLeast {left right : Char → Bool} (minimum : Nat)
    (h : ∀ next,test next → left next=right next) :
    SameOn test (atLeast left minimum) (atLeast right minimum) := by
  have hgo : ∀ (rest : List Char) (minimum : Nat) (previous : Option Char),
      Within test (previous,rest) →
        atLeast.go left minimum previous rest=atLeast.go right minimum previous rest ∧
          ∀ stop∈atLeast.go left minimum previous rest,Within test stop := by
    intro rest
    induction rest with
    | nil =>
      intro minimum previous hposition
      refine ⟨rfl,fun stop hstop => ?_⟩
      rw [atLeast.go] at hstop
      split_ifs at hstop
      · rw [List.mem_singleton] at hstop
        rwa [hstop]
      · exact (List.not_mem_nil hstop).elim
    | cons next rest ih =>
      intro minimum previous hposition
      obtain ⟨hnext,htail⟩ := List.forall_mem_cons.mp hposition.2
      obtain ⟨hsame,hwithin⟩ := ih (minimum-1) (some next) ⟨by rintro _ ⟨⟩; exact hnext,htail⟩
      refine ⟨by rw [atLeast.go,atLeast.go,h next hnext,hsame],?_⟩
      intro stop hstop
      rw [atLeast.go] at hstop
      rcases List.mem_append.mp hstop with hhere | hlater
      · split_ifs at hhere
        · rw [List.mem_singleton] at hhere
          rwa [hhere]
        · exact (List.not_mem_nil hhere).elim
      · split_ifs at hlater
        · exact hwithin stop hlater
        · exact (List.not_mem_nil hlater).elim
  exact fun position hposition => hgo position.2 minimum position.1 hposition

/-- A fixed number of characters of one class matches alike. -/
theorem sameOn_exactly (letters : Char → Bool) (count : Nat) :
    SameOn test (exactly letters count) (exactly letters count) := by
  induction count with
  | zero => exact sameOn_nothing
  | succ count ih => exact sameOn_andThen (sameOn_character (fun _ _ => rfl)) ih

variable {left right : Dialect}

/-- Two dialects agree on the characters of a test. -/
structure Dialect.AgreeOn (test : Char → Prop) (left right : Dialect) : Prop where
  isWord : ∀ next,test next → left.isWord next=right.isWord next
  isSpace : ∀ next,test next → left.isSpace next=right.isSpace next
  foldCase : ∀ next,test next → left.foldCase next=right.foldCase next

theorem sameOn_wordEdge (h : left.AgreeOn test right) :
    SameOn test (wordEdge left) (wordEdge right) := by
  rintro ⟨previous,rest⟩ hposition
  have hbefore : previous.any left.isWord=previous.any right.isWord := by
    cases previous with
    | none => rfl
    | some other => exact h.isWord other (hposition.1 other rfl)
  have hafter : rest.head?.any left.isWord=rest.head?.any right.isWord := by
    cases rest with
    | nil => rfl
    | cons next rest => exact h.isWord next (hposition.2 next List.mem_cons_self)
  refine ⟨by simp only [wordEdge,hbefore,hafter],?_⟩
  intro stop hstop
  simp only [wordEdge] at hstop
  split_ifs at hstop
  · rw [List.mem_singleton] at hstop
    rwa [hstop]
  · exact (List.not_mem_nil hstop).elim

/-- Words in either case match alike. -/
theorem sameOn_word (h : left.AgreeOn test right) (text : String) :
    SameOn test (word left text) (word right text) :=
  sameOn_literal text (fun letter next hnext => by
    simp only [anyCase,h.foldCase next hnext])

theorem sameOn_twoWords (h : left.AgreeOn test right) (one other : String) :
    SameOn test (twoWords left one other) (twoWords right one other) :=
  sameOn_andThen (sameOn_word h one)
    (sameOn_andThen (sameOn_optional (sameOn_character (fun _ _ => rfl))) (sameOn_word h other))

/-- The patterns of two dialects that agree match alike. -/
theorem sameOn_secretPatterns (h : left.AgreeOn test right) :
    List.Forall₂ (SameOn test) (secretPatterns left) (secretPatterns right) := by
  have hedge := sameOn_wordEdge h
  have hexact : ∀ text,SameOn test (literal exact text) (literal exact text) :=
    fun text => sameOn_literal text (fun _ _ _ => rfl)
  have hmany : ∀ letters minimum,SameOn test (atLeast letters minimum) (atLeast letters minimum) :=
    fun _ minimum => sameOn_atLeast minimum (fun _ _ => rfl)
  have hspaces : ∀ minimum,SameOn test (atLeast left.isSpace minimum)
      (atLeast right.isSpace minimum) := fun minimum => sameOn_atLeast minimum h.isSpace
  have hquotation : SameOn test (optional quotation) (optional quotation) :=
    sameOn_optional (sameOn_character (fun _ _ => rfl))
  have hone : ∀ letters,SameOn test (character letters) (character letters) :=
    fun _ => sameOn_character (fun _ _ => rfl)
  refine .cons ?_ (.cons ?_ (.cons ?_ (.cons ?_ (.cons ?_ (.cons ?_ (.cons ?_ .nil))))))
  · refine sameOn_andThen hedge (sameOn_andThen (sameOn_word h "bearer")
      (sameOn_andThen (hspaces 1) (sameOn_atLeast 8 ?_)))
    intro next hnext
    rw [h.foldCase next hnext]
  · exact sameOn_andThen hedge (sameOn_andThen (hexact _) (sameOn_andThen (hmany _ _)
      (sameOn_andThen (hexact _) (sameOn_andThen (hmany _ _) (sameOn_andThen (hexact _)
        (sameOn_andThen (hmany _ _) hedge))))))
  · exact sameOn_andThen (hexact _) (sameOn_andThen (sameOn_optional (sameOn_oneOf
      (.cons (hexact _) (.cons (hexact _) (.cons (hexact _) .nil))))) (hexact _))
  · exact sameOn_andThen hedge (sameOn_andThen (hexact _)
      (sameOn_andThen (sameOn_exactly _ _) hedge))
  · exact sameOn_andThen hedge (sameOn_andThen (hexact _) (sameOn_andThen (hone _)
      (sameOn_andThen (hexact _) (sameOn_andThen (hmany _ _) hedge))))
  · exact sameOn_andThen hedge (sameOn_andThen (hexact _) (sameOn_andThen (hmany _ _) hedge))
  · refine sameOn_andThen hquotation (sameOn_andThen (sameOn_oneOf ?_)
      (sameOn_andThen hquotation (sameOn_andThen (hspaces 0) (hone _))))
    exact .cons (sameOn_word h _) (.cons (sameOn_word h _) (.cons (sameOn_word h _)
      (.cons (sameOn_word h _) (.cons (sameOn_twoWords h _ _) (.cons (sameOn_twoWords h _ _)
        (.cons (sameOn_twoWords h _ _) (.cons (sameOn_twoWords h _ _) (.cons (sameOn_word h _)
          (.cons (sameOn_word h _) (.cons (sameOn_word h _) .nil))))))))))

/-- Searches for patterns that match alike have the same result. -/
theorem searchFrom_sameOn (h : SameOn test first second) {previous : Option Char}
    {rest : List Char} (hwithin : Within test (previous,rest)) :
    searchFrom first previous rest=searchFrom second previous rest := by
  induction rest generalizing previous with
  | nil => rw [searchFrom,searchFrom,(h _ hwithin).1]
  | cons next rest ih =>
    obtain ⟨hnext,htail⟩ := List.forall_mem_cons.mp hwithin.2
    rw [searchFrom,searchFrom,(h _ hwithin).1,ih ⟨by rintro _ ⟨⟩; exact hnext,htail⟩]

/-- Dialects that agree on the characters of a text agree on whether it looks like a secret. -/
theorem isSecretShaped_agreeOn (h : left.AgreeOn test right) {text : String}
    (htext : ∀ next∈text.toList,test next) : isSecretShaped left text=isSecretShaped right text := by
  have hwithin : Within test (none,text.toList) := ⟨fun _ hnone => (Option.not_mem_none _ hnone).elim,htext⟩
  have hall : ∀ {lefts rights : List Pattern},List.Forall₂ (SameOn test) lefts rights →
      lefts.any (fun pattern => search pattern text)=
        rights.any (fun pattern => search pattern text) := by
    intro lefts rights hpatterns
    induction hpatterns with
    | nil => rfl
    | cons hhead _ ih =>
      have hsearch := searchFrom_sameOn hhead hwithin
      rw [List.any_cons,List.any_cons,ih,search,search,hsearch]
  exact hall (sameOn_secretPatterns h)

end

/-- The backend and the console agree on visible ASCII characters and spaces. -/
theorem backend_agreeOn_console (isLetter : Char → Bool) :
    (backendDialect isLetter).AgreeOn (fun next => 32 ≤ next.toNat ∧ next.toNat < 128)
      consoleDialect where
  isWord := fun next hnext => by
    simp only [backendDialect,consoleDialect,hnext.2,if_true]
  isSpace := fun next hnext => by
    obtain ⟨hlow,hhigh⟩ := hnext
    rw [Bool.eq_iff_iff]
    simp only [backendDialect,consoleDialect,isSpace,isConsoleSpace,Bool.or_eq_true,
      Bool.and_eq_true,decide_eq_true_eq,beq_iff_eq]
    omega
  foldCase := fun next hnext => by
    obtain ⟨hlow,hhigh⟩ := hnext
    simp only [backendDialect,consoleDialect]
    rw [if_neg (by omega),if_neg (by omega),if_neg (by omega)]

/-- The backend with the word characters of ASCII only. -/
def plainDialect : Dialect := backendDialect (fun _ => false)

/-- The text shown instead of a secret does not look like one. -/
theorem redacted_not_secret (isLetter : Char → Bool) :
    isSecretShaped (backendDialect isLetter) redactedDisplayValue=false := by
  have hbearer : search (literal (anyCase plainDialect) "bearer") redactedDisplayValue=false := by
    decide +kernel
  have htoken : search (literal exact "eyJ") redactedDisplayValue=false := by decide +kernel
  have hprivate : search privateKeyPattern redactedDisplayValue=false := by decide +kernel
  have hprovider : search (literal exact "AIza") redactedDisplayValue=false := by decide +kernel
  have hhost : search (literal exact "gh") redactedDisplayValue=false := by decide +kernel
  have haccess : search (literal exact "ya29.") redactedDisplayValue=false := by decide +kernel
  have hlabelled : search (labelledPattern plainDialect) redactedDisplayValue=false := by
    decide +kernel
  have hall : ∀ pattern∈secretPatterns (backendDialect isLetter),
      search pattern redactedDisplayValue=false := by
    intro pattern hpattern
    simp only [secretPatterns,List.mem_cons,List.not_mem_nil,or_false] at hpattern
    rcases hpattern with rfl | rfl | rfl | rfl | rfl | rfl | rfl
    · exact search_wordEdge _ (search_andThen hbearer)
    · exact search_wordEdge _ (search_andThen htoken)
    · exact hprivate
    · exact search_wordEdge _ (search_andThen hprovider)
    · exact search_wordEdge _ (search_andThen hhost)
    · exact search_wordEdge _ (search_andThen haccess)
    · exact hlabelled
  unfold isSecretShaped
  rw [List.any_eq_false]
  intro pattern hpattern
  rw [hall pattern hpattern]
  exact Bool.false_ne_true

example : isSecretShaped plainDialect "set Access-Token : x"=true := by decide +kernel

end ControlGraph.SecretPatterns
