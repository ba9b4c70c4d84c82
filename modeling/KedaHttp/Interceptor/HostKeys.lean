import KedaHttp.Interceptor.Proxy

/-!
# Which names and headers give a key

`getHost` reads two domain names by their labels: the name of the caller, of which it takes the
third label, and the `Host` header, of which it takes the first two. Neither is checked to be a
name of the cluster. A name with three labels is enough to make a caller, whatever it ends with,
and all spellings of a header that start with the same two labels give the same key.
-/

namespace KedaHttp.Interceptor

open KedaHttp.Foundation

section Callers

/-- A label of a domain name: some text between the dots. -/
def Label (text : String) : Prop := text ≠ "" ∧ FreeOf '.' text

instance (text : String) : Decidable (Label text) :=
  inferInstanceAs (Decidable (_ ∧ _))

/-- A name of the form `$POD_IP.$DEPLOYMENT_NAME.$NAMESPACE.svc.cluster.local`. -/
def InClusterName (name ns : String) : Prop :=
  ∃ podIP deploymentName trail, Label podIP ∧ Label deploymentName ∧ Label ns ∧
    trail ∈ ["svc.cluster.local", "svc.cluster.local."] ∧
      name = podIP ++ ("." ++ (deploymentName ++ ("." ++ (ns ++ ("." ++ trail)))))

/-- The label that `getHost` takes for the namespace of the caller. -/
def thirdLabel (name : String) : String := ((split '.' name)[2]?).getD ""

theorem extractPodInfo_namespace (name : String) :
    (extractPodInfo name).2.2 = thirdLabel name := by
  simp only [extractPodInfo, thirdLabel]
  rcases split '.' name with _ | ⟨podIP, _ | ⟨deploymentName, _ | ⟨ns, rest⟩⟩⟩ <;> rfl

theorem InClusterName.labels {name ns : String} (grammatical : InClusterName name ns) :
    ∃ podIP deploymentName rest,
      split '.' name = podIP :: deploymentName :: ns :: "svc" :: rest := by
  rcases grammatical with ⟨podIP, deploymentName, trail, ip, deployment, label, ends, rfl⟩
  have service : ∃ rest, split '.' trail = "svc" :: rest := by
    simp only [List.mem_cons, List.not_mem_nil, or_false] at ends
    rcases ends with rfl | rfl
    · exact ⟨["cluster", "local"], by decide⟩
    · exact ⟨["cluster", "local", ""], by decide⟩
  rcases service with ⟨rest, labels⟩
  refine ⟨podIP, deploymentName, rest, ?_⟩
  rw [split_append ip.2 (by decide), split_append deployment.2 (by decide),
    split_append label.2 (by decide), labels]

theorem InClusterName.thirdLabel_eq {name ns : String} (grammatical : InClusterName name ns) :
    thirdLabel name = ns ∧ ns ≠ "" := by
  rcases grammatical.labels with ⟨podIP, deploymentName, rest, labels⟩
  rcases grammatical with ⟨_, _, _, _, _, label, _⟩
  refine ⟨?_, label.1⟩
  rw [thirdLabel, labels]
  rfl

variable {lookupAddr : LookupAddr} {r : Request} {names : List String}

theorem callerNamespace_of_answer
    (answer : lookupAddr (beforeFirst ':' r.remoteAddr) = .ok names) (ns : String) :
    callerNamespace lookupAddr r = some ns ↔
      ∃ name, names.head? = some name ∧ thirdLabel name = ns ∧ ns ≠ "" := by
  simp only [callerNamespace, answer, extractPodInfo_namespace]
  cases names with
  | nil => simp
  | cons name names =>
      by_cases missing : thirdLabel name = ""
      · simp only [missing, if_true, List.head?_cons, Option.some.injEq]
        constructor
        · intro found
          cases found
        · rintro ⟨_, rfl, same, named⟩
          exact absurd (same.symm.trans missing) named
      · simp only [missing, if_false, List.head?_cons, Option.some.injEq]
        constructor
        · rintro rfl
          exact ⟨name, rfl, rfl, missing⟩
        · rintro ⟨_, rfl, same, _⟩
          exact same

/-- A caller with a namespace gets a key for every header. -/
theorem getHost_of_callerNamespace {caller : String}
    (present : r.remoteAddr ≠ "") (named : r.host ≠ "")
    (found : callerNamespace lookupAddr r = some caller) :
    getHost lookupAddr r = .ok (serviceLabel r ++ "." ++ keyNamespace r caller) :=
  getHost_eq_ok_iff.mpr ⟨present, named, caller, found, rfl⟩

/--
A key is only derived from a name of the cluster, unless another name has a third label. The names
of the cluster are all accepted.
-/
theorem getHost_inClusterName_iff (named : r.host ≠ "")
    (answer : lookupAddr (beforeFirst ':' r.remoteAddr) = .ok names) :
    ((∀ key, getHost lookupAddr r = .ok key →
      ∃ name ns, names.head? = some name ∧ InClusterName name ns ∧
        callerNamespace lookupAddr r = some ns ∧
        key = serviceLabel r ++ "." ++ keyNamespace r ns) ↔
      r.remoteAddr = "" ∨ ∀ name, names.head? = some name →
        thirdLabel name = "" ∨ ∃ ns, InClusterName name ns) ∧
    ∀ name ns, names.head? = some name → InClusterName name ns → r.remoteAddr ≠ "" →
      callerNamespace lookupAddr r = some ns ∧
        getHost lookupAddr r = .ok (serviceLabel r ++ "." ++ keyNamespace r ns) := by
  refine ⟨⟨?_, ?_⟩, ?_⟩
  · intro only
    by_cases present : r.remoteAddr = ""
    · exact .inl present
    · right
      intro name first
      by_cases missing : thirdLabel name = ""
      · exact .inl missing
      · right
        have found : callerNamespace lookupAddr r = some (thirdLabel name) :=
          (callerNamespace_of_answer answer _).mpr ⟨name, first, rfl, missing⟩
        have derived := getHost_of_callerNamespace present named found
        rcases only _ derived with ⟨other, ns, firstOther, grammatical, _⟩
        rw [first, Option.some.injEq] at firstOther
        exact ⟨ns, firstOther ▸ grammatical⟩
  · intro condition key derived
    rcases getHost_eq_ok_iff.mp derived with ⟨present, _, caller, found, keyEq⟩
    rcases (callerNamespace_of_answer answer caller).mp found with ⟨name, first, third, nonempty⟩
    rcases condition with absent | grammatical
    · exact absurd absent present
    · rcases grammatical name first with missing | ⟨ns, grammatical⟩
      · exact absurd (third.symm.trans missing) nonempty
      · obtain rfl : ns = caller := grammatical.thirdLabel_eq.1.symm.trans third
        exact ⟨name, ns, first, grammatical, found, keyEq⟩
  · intro name ns first grammatical present
    have found : callerNamespace lookupAddr r = some ns :=
      (callerNamespace_of_answer answer ns).mpr
        ⟨name, first, grammatical.thirdLabel_eq⟩
    exact ⟨found, getHost_of_callerNamespace present named found⟩

/-- A pod of the cluster is taken for a caller in its own namespace. -/
theorem getHost_inClusterName_iff_pod :
    let lookupAddr : LookupAddr := fun _ => .ok ["10-0-0-1.app.dp-a.svc.cluster.local."]
    InClusterName "10-0-0-1.app.dp-a.svc.cluster.local." "dp-a" ∧
      getHost lookupAddr ⟨"10.0.0.1:4711", "app"⟩ = .ok "app.dp-a" := by
  intro lookupAddr
  have grammatical : InClusterName "10-0-0-1.app.dp-a.svc.cluster.local." "dp-a" :=
    ⟨"10-0-0-1", "app", "svc.cluster.local.", by decide, by decide, by decide, by decide,
      by decide⟩
  let r : Request := ⟨"10.0.0.1:4711", "app"⟩
  have answer : lookupAddr (beforeFirst ':' r.remoteAddr) =
      .ok ["10-0-0-1.app.dp-a.svc.cluster.local."] := rfl
  have named : r.host ≠ "" := by decide
  have derived := (getHost_inClusterName_iff named answer).2 _ _ rfl grammatical (by decide)
  exact ⟨grammatical, derived.2.trans (by decide)⟩

/-- The name of a node in a cloud, of which `getHost` takes a label for a namespace. -/
theorem not_getHost_inClusterName :
    let lookupAddr : LookupAddr := fun _ => .ok ["ip-10-0-0-1.eu-west-1.compute.internal."]
    getHost lookupAddr ⟨"10.0.0.1:4711", "app"⟩ = .ok "app.compute" ∧
      ∀ ns, ¬InClusterName "ip-10-0-0-1.eu-west-1.compute.internal." ns := by
  intro lookupAddr
  refine ⟨by decide, ?_⟩
  intro ns grammatical
  rcases grammatical.labels with ⟨podIP, deploymentName, rest, labels⟩
  have fourth : (split '.' "ip-10-0-0-1.eu-west-1.compute.internal.")[3]? = some "internal" := by
    decide
  rw [labels] at fourth
  simp at fourth

end Callers

section Headers

/-- A name as a `Host` header may give it, with or without a port. -/
def spellings (name port : String) : List String := [name, name ++ (":" ++ port)]

theorem beforeFirst_of_mem_spellings {name port host : String} (free : FreeOf ':' name)
    (spelled : host ∈ spellings name port) : beforeFirst ':' host = name := by
  simp only [spellings, List.mem_cons, List.not_mem_nil, or_false] at spelled
  rcases spelled with rfl | rfl
  · exact beforeFirst_of_freeOf free
  · exact beforeFirst_append free (by decide) port

theorem extractServiceInfo_of_freeOf {service : String} (free : FreeOf '.' service) :
    extractServiceInfo service = (service, "") := by
  rw [extractServiceInfo, split_of_freeOf free]

theorem extractServiceInfo_append {service : String} (free : FreeOf '.' service)
    (rest : String) :
    extractServiceInfo (service ++ ("." ++ rest)) = (service, beforeFirst '.' rest) := by
  obtain ⟨others, pieces⟩ := List.head?_eq_some_iff.mp (head_split '.' rest)
  rw [extractServiceInfo, split_append free (by decide), pieces]

/-- A header that names a service and its namespace, whatever follows. -/
theorem extractServiceInfo_of_qualified {service ns rest name : String}
    (serviceDot : FreeOf '.' service) (serviceColon : FreeOf ':' service)
    (nsDot : FreeOf '.' ns) (nsColon : FreeOf ':' ns) (restColon : FreeOf ':' rest)
    (either : name ∈ [service ++ ("." ++ ns), service ++ ("." ++ (ns ++ ("." ++ rest)))]) :
    FreeOf ':' name ∧ extractServiceInfo name = (service, ns) := by
  simp only [List.mem_cons, List.not_mem_nil, or_false] at either
  rcases either with rfl | rfl
  · rw [extractServiceInfo_append serviceDot, beforeFirst_of_freeOf nsDot]
    simp only [freeOf_append]
    exact ⟨⟨serviceColon, by decide, nsColon⟩, trivial⟩
  · rw [extractServiceInfo_append serviceDot, beforeFirst_append nsDot (by decide)]
    simp only [freeOf_append]
    exact ⟨⟨serviceColon, by decide, nsColon, by decide, restColon⟩, trivial⟩

theorem extractServiceInfo_service (name : String) :
    (extractServiceInfo name).1 = beforeFirst '.' name := by
  obtain ⟨others, pieces⟩ := List.head?_eq_some_iff.mp (head_split '.' name)
  rw [extractServiceInfo, pieces]
  cases others <;> rfl

theorem freeOf_headerNamespace (r : Request) : FreeOf ':' (headerNamespace r) := by
  have free := freeOf_beforeFirst ':' r.host
  simp only [headerNamespace, extractServiceInfo]
  cases labels : split '.' (beforeFirst ':' r.host) with
  | nil => decide
  | cons service rest =>
      cases rest with
      | nil => exact (by decide : FreeOf ':' "")
      | cons ns rest =>
          have member : ns ∈ split '.' (beforeFirst ':' r.host) := by simp [labels]
          exact freeOf_of_mem_split_of_freeOf free member

theorem freeOf_thirdLabel {name : String} (domain : FreeOf ':' name) :
    FreeOf ':' (thirdLabel name) := by
  rw [thirdLabel]
  cases third : (split '.' name)[2]? with
  | none => decide
  | some label =>
      exact freeOf_of_mem_split_of_freeOf domain (List.mem_of_getElem? third)

theorem freeOf_keyNamespace {r : Request} {caller : String} (free : FreeOf ':' caller) :
    FreeOf ':' (keyNamespace r caller) := by
  simp only [keyNamespace]
  split
  · exact free
  · exact freeOf_headerNamespace r

variable {lookupAddr : LookupAddr} {remoteAddr caller : String}

/-- Only what stands before the first colon of a header matters to the key. -/
theorem getHost_of_spelling {name port host : String}
    (present : remoteAddr ≠ "")
    (found : callerNamespace lookupAddr ⟨remoteAddr, host⟩ = some caller)
    (free : FreeOf ':' name) (spelled : host ∈ spellings name port) (named : host ≠ "") :
    getHost lookupAddr ⟨remoteAddr, host⟩ =
      .ok ((extractServiceInfo name).1 ++ "." ++
        if hasPrefix caller "dp-" || (extractServiceInfo name).2 == "" then caller
        else (extractServiceInfo name).2) := by
  have stripped := beforeFirst_of_mem_spellings free spelled
  subst stripped
  exact getHost_of_callerNamespace present named found

/-- The parts of a key can be told apart. -/
theorem freeOf_of_getHost {r : Request} {key : String}
    (derived : getHost lookupAddr r = .ok key)
    (found : callerNamespace lookupAddr r = some caller) (free : FreeOf ':' caller) :
    FreeOf ':' key ∧ beforeFirst '.' key = serviceLabel r := by
  rcases callerNamespace_of_getHost derived with ⟨other, same, rfl⟩
  obtain rfl : caller = other := Option.some.inj (found.symm.trans same)
  have service := freeOf_serviceLabel r
  constructor
  · rw [freeOf_append, freeOf_append]
    exact ⟨⟨service.2, by decide⟩, freeOf_keyNamespace free⟩
  · rw [String.append_assoc]
    exact beforeFirst_append service.1 (by decide) _

/--
All spellings of a header give one key: the service label with the namespace that follows it, or
with the namespace of the caller if that is a user namespace or there is no other. The service
label can be read off the key.
-/
theorem getHost_spellings {remoteDNS : String} {names : List String} (present : remoteAddr ≠ "")
    (answer : lookupAddr (beforeFirst ':' remoteAddr) = .ok (remoteDNS :: names))
    (third : (split '.' remoteDNS)[2]? = some caller) (nonempty : caller ≠ "")
    (domain : FreeOf ':' remoteDNS) :
    (∀ service ns rest port : String, FreeOf '.' service → FreeOf ':' service →
      FreeOf '.' ns → FreeOf ':' ns → ns ≠ "" → FreeOf ':' rest →
      ∀ name ∈ [service ++ ("." ++ ns), service ++ ("." ++ (ns ++ ("." ++ rest)))],
        ∀ host ∈ spellings name port,
          getHost lookupAddr ⟨remoteAddr, host⟩ =
            .ok (service ++ "." ++ if hasPrefix caller "dp-" = true then caller else ns)) ∧
    (∀ service port : String, FreeOf '.' service → FreeOf ':' service →
      ∀ host ∈ spellings service port, host ≠ "" →
        getHost lookupAddr ⟨remoteAddr, host⟩ = .ok (service ++ "." ++ caller)) ∧
    ∀ host key, getHost lookupAddr ⟨remoteAddr, host⟩ = .ok key →
      FreeOf ':' key ∧ beforeFirst '.' key = serviceLabel ⟨remoteAddr, host⟩ ∧
        serviceLabel ⟨remoteAddr, host⟩ = beforeFirst '.' (beforeFirst ':' host) := by
  have label : thirdLabel remoteDNS = caller := by rw [thirdLabel, third, Option.getD_some]
  have found : ∀ host, callerNamespace lookupAddr ⟨remoteAddr, host⟩ = some caller := by
    intro host
    have heard : lookupAddr (beforeFirst ':' (Request.mk remoteAddr host).remoteAddr) =
      .ok (remoteDNS :: names) := answer
    exact (callerNamespace_of_answer heard caller).mpr ⟨remoteDNS, rfl, label, nonempty⟩
  refine ⟨?_, ?_, ?_⟩
  · intro service ns rest port serviceDot serviceColon nsDot nsColon named restColon name either
      host spelled
    have labels := extractServiceInfo_of_qualified serviceDot serviceColon nsDot nsColon restColon
      either
    rcases labels with ⟨free, info⟩
    have written : host ≠ "" := by
      rintro rfl
      rw [← beforeFirst_of_mem_spellings free spelled] at info
      exact named (congrArg Prod.snd info).symm
    rw [getHost_of_spelling present (found host) free spelled written, info]
    simp [named]
  · intro service port serviceDot serviceColon host spelled named
    rw [getHost_of_spelling present (found host) serviceColon spelled named,
      extractServiceInfo_of_freeOf serviceDot]
    simp
  · intro host key derived
    have callerFree : FreeOf ':' caller := label ▸ freeOf_thirdLabel domain
    have parts := freeOf_of_getHost derived (found host) callerFree
    exact ⟨parts.1, parts.2, extractServiceInfo_service _⟩

/-- A header with a port and the domain of the cluster, from a caller outside user namespaces. -/
theorem getHost_spellings_port :
    let lookupAddr : LookupAddr := fun _ => .ok ["10-0-0-1.gateway.system.svc.cluster.local."]
    getHost lookupAddr ⟨"10.0.0.1:4711", "app.dp-a.svc.cluster.local:8080"⟩ = .ok "app.dp-a" ∧
      getHost lookupAddr ⟨"10.0.0.1:4711", "app:8080"⟩ = .ok "app.system" := by
  intro lookupAddr
  have spelled := getHost_spellings (by decide : "10.0.0.1:4711" ≠ "")
    (rfl : lookupAddr _ = .ok ["10-0-0-1.gateway.system.svc.cluster.local."])
    (by decide : _ = some "system") (by decide) (by decide)
  constructor
  · exact spelled.1 "app" "dp-a" "svc.cluster.local" "8080" (by decide) (by decide) (by decide)
      (by decide) (by decide) (by decide) "app.dp-a.svc.cluster.local" (by decide) _ (by decide)
  · exact spelled.2.1 "app" "8080" (by decide) (by decide) _ (by decide) (by decide)

end Headers

end KedaHttp.Interceptor
