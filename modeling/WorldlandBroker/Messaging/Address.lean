import WorldlandBroker.Job.Canonical

/-!
# The address of Redis

`parseRedisAddr` of the SDK and `parseAddr` of the older agent read the host and
the port that the client of redis.go dials.  Go counts bytes, and no byte of a longer
character is a colon, so positions of characters give the same parts.
-/

namespace WorldlandBroker.Messaging

open Provider Job

/-- `Sscanf` with the verb `%d`; `none` leaves the variable as it is. -/
def scanInt (text : List Char) : Option ℤ :=
  match skipSpace text with
  | none => none
  | some text =>
      let (sign, rest) := acceptSign text
      let digits := rest.takeWhile Char.isDigit
      if digits.isEmpty then none
      else
        let n := sign * (Nat.ofDigitChars 10 digits 0 : ℤ)
        if inInt64 n then some n else none

theorem sscanfD_eq_scanInt (s : String) : sscanfD s = (scanInt s.toList).getD 0 := by
  unfold sscanfD scanInt
  cases skipSpace s.toList with
  | none => rfl
  | some text =>
      simp only [scanNumber]
      split_ifs <;> rfl

def lastIndex (c : Char) (text : List Char) : Option ℕ :=
  (text.reverse.findIdx? (· == c)).map fun i => text.length - 1 - i

def parseRedisAddr (addr : String) : String × ℤ :=
  let text := addr.toList
  match lastIndex ':' text with
  | none => ("localhost", 6379)
  | some idx =>
      if 0 < idx then
        (String.ofList (text.take idx), (scanInt (text.drop (idx + 1))).getD 6379)
      else ("localhost", 6379)

def parseAddrFrom (text : List Char) : ℕ → String × ℤ
  | 0 => ("localhost", 6379)
  | i + 1 =>
      if text[i]? = some ':' then
        let host := String.ofList (text.take i)
        match scanInt (text.drop (i + 1)) with
        | some port => (host, port)
        | none => (host, 6379)
      else parseAddrFrom text i

def parseAddr (addr : String) : String × ℤ :=
  let text := addr.toList
  if 0 < text.length - 1 then parseAddrFrom text text.length else ("localhost", 6379)

def clientAddr (config : String × ℤ) : String := config.1 ++ ":" ++ decimal config.2

/-! ## The last colon -/

variable {before after text : List Char}

private theorem lastIndex_append (hlast : ':' ∉ after) :
    lastIndex ':' (before ++ ':' :: after) = some before.length := by
  have hnone : after.reverse.findIdx? (· == ':') = none := by
    rw [List.findIdx?_eq_none_iff]
    intro c hc
    have hne : c ≠ ':' := by
      rintro rfl
      exact hlast (List.mem_reverse.mp hc)
    simpa using hne
  have hlength : (before ++ ':' :: after).length - 1 - after.length = before.length := by
    rw [List.length_append, List.length_cons]
    omega
  have hreverse : (before ++ ':' :: after).reverse = after.reverse ++ ':' :: before.reverse := by
    simp
  have hfind : (before ++ ':' :: after).reverse.findIdx? (· == ':') = some after.length := by
    rw [hreverse, List.findIdx?_append, hnone, List.findIdx?_cons, if_pos (by decide)]
    simp
  rw [lastIndex, hfind]
  exact congrArg some hlength

private theorem lastIndex_of_notMem (hnone : ':' ∉ text) : lastIndex ':' text = none := by
  have hfind : text.reverse.findIdx? (· == ':') = none := by
    rw [List.findIdx?_eq_none_iff]
    intro c hc
    have hne : c ≠ ':' := by
      rintro rfl
      exact hnone (List.mem_reverse.mp hc)
    simpa using hne
  rw [lastIndex, hfind]
  rfl

private theorem parseAddrFrom_append (hlast : ':' ∉ after) (n : ℕ) (hn : n ≤ after.length) :
    parseAddrFrom (before ++ ':' :: after) (before.length + 1 + n) =
      (String.ofList before, (scanInt after).getD 6379) := by
  induction n with
  | zero =>
      have hcolon : (before ++ ':' :: after)[before.length]? = some ':' := by simp
      have hdrop : (before ++ ':' :: after).drop (before.length + 1) = after := by simp
      rw [Nat.add_zero, parseAddrFrom, if_pos hcolon, hdrop, List.take_left]
      cases scanInt after <;> rfl
  | succ n ih =>
      have hother : (before ++ ':' :: after)[before.length + 1 + n]? ≠ some ':' := by
        intro hcolon
        rw [List.getElem?_append_right (by omega),
          show before.length + 1 + n - before.length = n + 1 by omega,
          List.getElem?_cons_succ] at hcolon
        exact hlast (List.mem_of_getElem? hcolon)
      rw [← Nat.add_assoc, parseAddrFrom, if_neg hother]
      exact ih (by omega)

private theorem parseAddrFrom_of_notMem (hnone : ':' ∉ text) (i : ℕ) :
    parseAddrFrom text i = ("localhost", 6379) := by
  induction i with
  | zero => rfl
  | succ i ih =>
      have hother : text[i]? ≠ some ':' := fun hcolon => hnone (List.mem_of_getElem? hcolon)
      rw [parseAddrFrom, if_neg hother, ih]

private theorem exists_lastColon (text : List Char) :
    ':' ∉ text ∨ ∃ before after, text = before ++ ':' :: after ∧ ':' ∉ after := by
  by_cases hmem : ':' ∈ text
  · obtain ⟨after, before, hsplit, hlast⟩ :=
      List.eq_append_cons_of_mem (List.mem_reverse.mpr hmem)
    refine .inr ⟨before.reverse, after.reverse, ?_, by simpa using hlast⟩
    rw [← List.reverse_reverse text, hsplit]
    simp
  · exact .inl hmem

private theorem parseRedisAddr_split (hlast : ':' ∉ after) :
    parseRedisAddr (String.ofList (before ++ ':' :: after)) =
      if before = [] then ("localhost", 6379)
      else (String.ofList before, (scanInt after).getD 6379) := by
  have hdrop : (before ++ ':' :: after).drop (before.length + 1) = after := by simp
  simp only [parseRedisAddr, String.toList_ofList, lastIndex_append hlast, List.take_left, hdrop]
  cases before with
  | nil => rfl
  | cons c before => rfl

private theorem parseAddr_split (hlast : ':' ∉ after) :
    parseAddr (String.ofList (before ++ ':' :: after)) =
      if before = [] ∧ after = [] then ("localhost", 6379)
      else (String.ofList before, (scanInt after).getD 6379) := by
  have hlength : (before ++ ':' :: after).length = before.length + 1 + after.length := by
    simp
    omega
  simp only [parseAddr, String.toList_ofList]
  split
  · rename_i hlong
    rw [if_neg, hlength]
    · exact parseAddrFrom_append hlast after.length le_rfl
    · rintro ⟨rfl, rfl⟩
      exact absurd hlong (by decide)
  · rename_i hshort
    rw [hlength] at hshort
    rw [if_pos]
    exact ⟨List.eq_nil_of_length_eq_zero (by omega), List.eq_nil_of_length_eq_zero (by omega)⟩

private theorem parse_of_notMem (hnone : ':' ∉ text) :
    parseRedisAddr (String.ofList text) = ("localhost", 6379) ∧
      parseAddr (String.ofList text) = ("localhost", 6379) := by
  constructor
  · rw [parseRedisAddr, String.toList_ofList, lastIndex_of_notMem hnone]
  · rw [parseAddr, String.toList_ofList, parseAddrFrom_of_notMem hnone, ite_self]

/-! ## Ports -/

private theorem scanInt_decimal {port : ℤ} (hfits : inInt64 port = true) :
    scanInt (decimal port).toList = some port := by
  obtain ⟨c, digits, hdigits, hc⟩ := toDigits_eq_cons port.natAbs
  have htake : (Nat.toDigits 10 port.natAbs).takeWhile Char.isDigit =
      Nat.toDigits 10 port.natAbs :=
    List.takeWhile_eq_self_iff.mpr fun c hc => isDigit_of_mem_toDigits hc
  have hsome : (Nat.toDigits 10 port.natAbs).isEmpty = false := by rw [hdigits]; rfl
  have hspace : isSpace c = false := isSpace_of_isDigit hc
  have hline : c ≠ '\n' := by
    rintro rfl
    exact absurd hc (by decide)
  have hskip : skipSpace (Nat.toDigits 10 port.natAbs) = some (Nat.toDigits 10 port.natAbs) := by
    rw [hdigits, skipSpace, if_neg hline, hspace]
    rfl
  by_cases hnegative : port < 0
  · have hn : -1 * (port.natAbs : ℤ) = port := by omega
    have hminus : skipSpace ('-' :: Nat.toDigits 10 port.natAbs) =
        some ('-' :: Nat.toDigits 10 port.natAbs) := rfl
    have hsign : acceptSign ('-' :: Nat.toDigits 10 port.natAbs) =
        (-1, Nat.toDigits 10 port.natAbs) := rfl
    rw [scanInt, toList_decimal_signed, if_pos hnegative, hminus]
    simp only [hsign, htake, hsome, Nat.ofDigitChars_ten_toDigits, hn, hfits, if_true]
    rfl
  · have hn : 1 * (port.natAbs : ℤ) = port := by omega
    rw [scanInt, toList_decimal_signed, if_neg hnegative, hskip]
    simp only [acceptSign_toDigits, htake, hsome, Nat.ofDigitChars_ten_toDigits, hn, hfits,
      if_true]
    rfl

private theorem colon_notMem_decimal (port : ℤ) : ':' ∉ (decimal port).toList := by
  intro hcolon
  rw [toList_decimal_signed] at hcolon
  have hdigit : ':' ∉ Nat.toDigits 10 port.natAbs := fun hmem =>
    absurd (isDigit_of_mem_toDigits hmem) (by decide)
  split at hcolon
  · rcases List.mem_cons.mp hcolon with h | h
    · exact absurd h (by decide)
    · exact hdigit h
  · exact hdigit hcolon

/-- Where the agent reads an empty host and the SDK falls back to its own machine. -/
def PortOnly (addr : String) : Prop :=
  ∃ after, after ≠ [] ∧ ':' ∉ after ∧ addr = String.ofList (':' :: after)

private theorem portOnly_split (hlast : ':' ∉ after) :
    PortOnly (String.ofList (before ++ ':' :: after)) ↔ before = [] ∧ after ≠ [] := by
  constructor
  · rintro ⟨rest, hsome, hrest, hsame⟩
    have hlist := congrArg (lastIndex ':' ∘ String.toList) hsame
    simp only [Function.comp_apply, String.toList_ofList] at hlist
    rw [lastIndex_append hlast, show ':' :: rest = [] ++ ':' :: rest from rfl,
      lastIndex_append hrest] at hlist
    have hbefore : before = [] := List.eq_nil_of_length_eq_zero (by simpa using hlist)
    subst hbefore
    have htail : ':' :: after = ':' :: rest := by
      have htext := congrArg String.toList hsame
      simpa using htext
    rw [List.cons.injEq] at htail
    exact ⟨rfl, htail.2 ▸ hsome⟩
  · rintro ⟨rfl, hsome⟩
    exact ⟨after, hsome, hlast, rfl⟩

/--
An address of a host, one with colons of its own too, and a port comes apart into
just these in both programs, and dialling them dials it.  The two read any other
text alike too, unless it is a colon and a port without a host.
-/
theorem redis_addr_read :
    (∀ host port, host ≠ "" → inInt64 port = true →
      parseRedisAddr (clientAddr (host, port)) = (host, port) ∧
        parseAddr (clientAddr (host, port)) = (host, port)) ∧
      ∀ addr, parseAddr addr = parseRedisAddr addr ↔ ¬ PortOnly addr := by
  constructor
  · intro host port hhost hfits
    have haddr : clientAddr (host, port) =
        String.ofList (host.toList ++ ':' :: (decimal port).toList) := by
      rw [String.ofList_append, String.ofList_toList, clientAddr, String.append_assoc]
      congr 1
      rw [← String.ofList_toList (s := ":" ++ decimal port), String.toList_append]
      rfl
    have hsome : host.toList ≠ [] := by simpa using hhost
    rw [haddr, parseRedisAddr_split (colon_notMem_decimal port),
      parseAddr_split (colon_notMem_decimal port), if_neg hsome, if_neg fun h => hsome h.1,
      scanInt_decimal hfits, String.ofList_toList]
    exact ⟨rfl, rfl⟩
  · intro addr
    rw [← String.ofList_toList (s := addr)]
    rcases exists_lastColon addr.toList with hnone | ⟨before, after, htext, hlast⟩
    · obtain ⟨hsdk, hagent⟩ := parse_of_notMem hnone
      rw [hsdk, hagent]
      refine iff_of_true rfl ?_
      rintro ⟨after, -, -, haddr⟩
      apply hnone
      rw [String.ofList_toList] at haddr
      simp [haddr]
    · rw [htext, portOnly_split hlast, parseRedisAddr_split hlast, parseAddr_split hlast]
      by_cases hbefore : before = []
      · by_cases hafter : after = []
        · simp [hbefore, hafter]
        · simp only [hbefore, hafter, and_false, if_false, if_true, true_and, ne_eq,
            not_false_eq_true, not_true_eq_false, iff_false]
          intro hsame
          have hhost : "" = "localhost" := congrArg Prod.fst hsame
          exact absurd hhost (by decide)
      · simp [hbefore]

end WorldlandBroker.Messaging
