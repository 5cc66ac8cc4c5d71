import SechatClient.FirstMatch
import SechatClient.GuiApp

/-!
# Contacts by query

`resolve_query` picks a contact by exact alias, else by alias prefix, else
by fingerprint prefix, each time the first one in the order of the directory
listing.  The order matters as soon as the deciding one of the three searches
has a second match.
-/

namespace SechatClient

open ByteStrings FirstMatch

def Contact.hasAlias (q : String) (contact : Contact) : Bool :=
  contact.aliasName = some q

def Contact.aliasStartsWith (q : String) (contact : Contact) : Bool :=
  contact.aliasName.any fun aliasName => startsWith aliasName q

def Contact.fingerprintStartsWith (q : String) (contact : Contact) : Bool :=
  startsWith contact.fingerprint q

def resolveQuery (contacts : List Contact) (query : String) :
    Option KeyType :=
  let q := trim query
  if q.isEmpty then
    none
  else
    (((contacts.find? (Contact.hasAlias q)).or
      (contacts.find? (Contact.aliasStartsWith q))).or
        (contacts.find? (Contact.fingerprintStartsWith q))).map Contact.id

def Client.resolvePeer (P : Primitives) (view : StoreView) (query : String) :
    Option KeyType :=
  resolveQuery (Client.contacts P view) query

def queryTiers (q : String) : List (Contact → Bool) :=
  [Contact.hasAlias q, Contact.aliasStartsWith q,
    Contact.fingerprintStartsWith q]

/-- The query is blank, or the first of the three searches with a match has
only one. -/
def SinglesOut (contacts : List Contact) (query : String) : Prop :=
  trim query = "" ∨ Unambiguous (queryTiers (trim query)) contacts

instance (contacts : List Contact) (query : String) :
    Decidable (SinglesOut contacts query) :=
  inferInstanceAs (Decidable (_ ∨ _))

variable {contacts : List Contact} {query : String}

theorem resolveQuery_blank (hblank : trim query = "") :
    resolveQuery contacts query = none := by
  simp [resolveQuery, hblank]

theorem resolveQuery_eq_firstMatch (hquery : trim query ≠ "") :
    resolveQuery contacts query =
      (firstMatch (queryTiers (trim query)) contacts).map Contact.id := by
  have hempty : (trim query).isEmpty = false := by
    simpa [String.isEmpty_iff] using hquery
  simp [resolveQuery, hempty, queryTiers, firstMatch, Option.or_assoc]

/-- The answer survives every reordering of the contacts exactly when the
query singles a contact out. -/
theorem resolve_query_order_independent_iff
    (contacts : List Contact) (hids : (contacts.map Contact.id).Nodup)
    (query : String) :
    (∀ other : List Contact, other.Perm contacts →
      resolveQuery other query = resolveQuery contacts query) ↔
    SinglesOut contacts query := by
  by_cases hblank : trim query = ""
  · simp [SinglesOut, resolveQuery_blank hblank, hblank]
  · simp only [SinglesOut, resolveQuery_eq_firstMatch hblank, hblank,
      false_or]
    exact unambiguous_iff hids

def sampleContact (first : UInt8) (aliasName : Option String) : Contact where
  id := Vector.replicate 32 first
  fingerprint := fingerprint (Vector.replicate 32 first)
  online := false
  address := none
  aliasName := aliasName

theorem unique_alias_prefix_order_independent :
    resolveQuery
        [sampleContact 2 (some "bob"), sampleContact 1 (some "alice")]
        " bo" =
      resolveQuery
        [sampleContact 1 (some "alice"), sampleContact 2 (some "bob")]
        " bo" :=
  (resolve_query_order_independent_iff
    [sampleContact 1 (some "alice"), sampleContact 2 (some "bob")]
    (by decide) " bo").mpr (by decide) _ (List.Perm.swap _ _ _)

/-- Two aliases with the queried prefix: who is meant depends on the order of
the listing. -/
theorem shared_alias_prefix_resolves_by_order :
    ([sampleContact 1 (some "alice"), sampleContact 2 (some "alan")].map
        Contact.id).Nodup ∧
      [sampleContact 2 (some "alan"), sampleContact 1 (some "alice")].Perm
        [sampleContact 1 (some "alice"), sampleContact 2 (some "alan")] ∧
      resolveQuery
          [sampleContact 1 (some "alice"), sampleContact 2 (some "alan")]
          "al" = some (Vector.replicate 32 1) ∧
        resolveQuery
          [sampleContact 2 (some "alan"), sampleContact 1 (some "alice")]
          "al" = some (Vector.replicate 32 2) := by
  decide

end SechatClient
