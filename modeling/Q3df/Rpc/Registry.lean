/-
Module: Q3df.Rpc.Registry
Layer: Rpc
Purpose: The services a server knows. However they were added, a method that is found has a service,
  and that service registered it; so the second of the two lookups of a call never fails, and a call
  never reaches a service that does not have the method. Every method of an added service is found
  under every spelling of its name. A second service of the same name ends the program.
Imports: Mathlib.Logic.Function.Basic, Q3df.Rpc.Service
Trusted boundary: human-reviewed transcription of
  tools/protobuf/src/google/protobuf/rpc/rpc_server.cc, without the thread that accepts; allocations
  do not fail
Main exports: Server, Server.addService, addServices, Server.findMethodDescriptor,
  Server.findService, Server.callMethod, Registered, registered_addServices,
  findService_of_registered, findMethodDescriptor_of_added, addServices_isSome_iff
Open obligations: none
-/
import Mathlib.Logic.Function.Basic
import Q3df.Rpc.Service

namespace Q3df.Rpc

/-- `Server`, its maps from names to services and to methods. -/
structure Server (σ μ : Type) where
  serviceMap : StdString → Option (Service σ μ)
  serviceMethodMap : StdString → Option MethodDescriptor

variable {σ μ : Type}

/-- The constructor. -/
def Server.empty : Server σ μ := { serviceMap := fun _ => none, serviceMethodMap := fun _ => none }

/-- One turn of the loop of `AddService`. -/
def Server.addMethod (server : Server σ μ) (method : MethodDescriptor) : Server σ μ :=
  { server with
    serviceMethodMap := Function.update server.serviceMethodMap (getServiceMethodName method) (some method) }

/-- `AddService`; `none` for the fatal error. -/
def Server.addService (server : Server σ μ) (service : Service σ μ) : Option (Server σ μ) :=
  let name := getServiceName service.descriptor
  match server.serviceMap name with
  | some _ => none
  | none =>
      some (service.descriptor.methodDescriptors.foldl Server.addMethod
        { server with serviceMap := Function.update server.serviceMap name (some service) })

/-- One service after the other. -/
def addServices : List (Service σ μ) → Server σ μ → Option (Server σ μ)
  | [], server => some server
  | service :: services, server => (server.addService service).bind (addServices services)

/-- `findMethodDescriptor` and `FindMethodDescriptor`. -/
def Server.findMethodDescriptor (server : Server σ μ) (method : StdString) : Option MethodDescriptor :=
  server.serviceMethodMap (camelCase method)

/-- `findService`. -/
def Server.findServiceOf (server : Server σ μ) (method : MethodDescriptor) : Option (Service σ μ) :=
  server.serviceMap (camelCase method.service)

/-- `FindService`. -/
def Server.findService (server : Server σ μ) (method : StdString) : Option (Service σ μ) :=
  (server.findMethodDescriptor method).bind server.findServiceOf

/-- `CallMethod`, with the method's name. -/
def Server.callMethod (server : Server σ μ) (methodName : StdString) (request response : μ) (shared : σ) :
    Error × μ × σ :=
  match server.findMethodDescriptor methodName with
  | none => ({ text := ascii "rpc: can't find method " ++ methodName }, response, shared)
  | some method =>
      match server.findServiceOf method with
      | none => ({ text := ascii "rpc: can't find service " ++ methodName }, response, shared)
      | some service => service.callMethod method request shared

/-!
### What is registered

The two maps of a server belong together, whatever services have been added:
each service is filed with all its methods, under names in camel case.
-/

/-- The two maps belong together: a method is filed under its own name, and its
service is there and has it; a service is filed under its own name. -/
structure Registered (server : Server σ μ) : Prop where
  methods : ∀ key method, server.serviceMethodMap key = some method →
    getServiceMethodName method = key ∧
      ∃ service, server.findServiceOf method = some service ∧
        method ∈ service.descriptor.methodDescriptors
  services : ∀ key service, server.serviceMap key = some service → getServiceName service.descriptor = key

variable {server server' : Server σ μ} {service : Service σ μ}
  {method : MethodDescriptor} {text : StdString}

theorem service_of_mem {descriptor : ServiceDescriptor} (among : method ∈ descriptor.methodDescriptors) :
    method.service = descriptor.name := by
  obtain ⟨name, _, rfl⟩ := List.mem_map.mp among
  rfl

theorem addMethod_serviceMethodMap (server : Server σ μ) (method : MethodDescriptor) :
    (server.addMethod method).serviceMethodMap =
      Function.update server.serviceMethodMap (getServiceMethodName method) (some method) := rfl

/-- Adding methods leaves the services alone. -/
theorem foldl_addMethod_serviceMap (methods : List MethodDescriptor) (server : Server σ μ) :
    (methods.foldl Server.addMethod server).serviceMap = server.serviceMap := by
  induction methods generalizing server with
  | nil => rfl
  | cons method methods inductionHypothesis =>
      rw [List.foldl_cons, inductionHypothesis]
      rfl

/-- A method that is filed was filed before or is one of those filed now. -/
theorem foldl_addMethod_cases {methods : List MethodDescriptor} {key : StdString}
    (filed : (methods.foldl Server.addMethod server).serviceMethodMap key = some method) :
    server.serviceMethodMap key = some method ∨ method ∈ methods ∧
      getServiceMethodName method = key := by
  induction methods generalizing server with
  | nil => exact Or.inl filed
  | cons first methods inductionHypothesis =>
      rw [List.foldl_cons] at filed
      rcases inductionHypothesis filed with before | ⟨among, name⟩
      · by_cases same : key = getServiceMethodName first
        · rw [addMethod_serviceMethodMap, same, Function.update_self] at before
          cases before
          exact Or.inr ⟨List.mem_cons_self, same.symm⟩
        · rw [addMethod_serviceMethodMap, Function.update_of_ne same] at before
          exact Or.inl before
      · exact Or.inr ⟨List.mem_cons_of_mem first among, name⟩

/-- Nothing that is filed is lost, though it may be replaced by another method
of the same name. -/
theorem foldl_addMethod_isSome {methods : List MethodDescriptor} {key : StdString}
    (filed : (server.serviceMethodMap key).isSome ∨ ∃ method ∈ methods,
      getServiceMethodName method = key) :
    ((methods.foldl Server.addMethod server).serviceMethodMap key).isSome := by
  induction methods generalizing server with
  | nil =>
      rcases filed with before | ⟨method, among, _⟩
      · exact before
      · cases among
  | cons first methods inductionHypothesis =>
      apply inductionHypothesis
      by_cases same : key = getServiceMethodName first
      · left
        rw [addMethod_serviceMethodMap, same, Function.update_self]
        rfl
      · rcases filed with before | ⟨method, among, name⟩
        · left
          rw [addMethod_serviceMethodMap, Function.update_of_ne same]
          exact before
        · rcases List.mem_cons.mp among with rfl | later
          · exact absurd name.symm same
          · exact Or.inr ⟨method, later, name⟩

/-- A service is added if its name is free, and then with all its methods. -/
theorem addService_eq_some :
    server.addService service = some server' ↔
      server.serviceMap (getServiceName service.descriptor) = none ∧
        server' = service.descriptor.methodDescriptors.foldl Server.addMethod
          { server with
            serviceMap := Function.update server.serviceMap (getServiceName service.descriptor)
              (some service) } := by
  rw [Server.addService]
  cases server.serviceMap (getServiceName service.descriptor) with
  | none => simp [eq_comm]
  | some other => simp

/-- Adding a service keeps the maps together. -/
theorem registered_addService (registered : Registered server)
    (added : server.addService service = some server') :
    Registered server' := by
  obtain ⟨fresh, rfl⟩ := addService_eq_some.mp added
  refine ⟨?_, ?_⟩
  · intro key method filed
    simp only [Server.findServiceOf, foldl_addMethod_serviceMap]
    rcases foldl_addMethod_cases filed with before | ⟨among, name⟩
    · obtain ⟨name, other, found, among⟩ := registered.methods key method before
      refine ⟨name, other, ?_, among⟩
      have different : camelCase method.service ≠ getServiceName service.descriptor := by
        intro same
        rw [Server.findServiceOf, same, fresh] at found
        cases found
      rw [Function.update_of_ne different]
      exact found
    · refine ⟨name, service, ?_, among⟩
      rw [service_of_mem among]
      exact Function.update_self ..
  · intro key other filed
    rw [foldl_addMethod_serviceMap] at filed
    simp only [] at filed
    by_cases same : key = getServiceName service.descriptor
    · subst same
      rw [Function.update_self] at filed
      cases filed
      rfl
    · rw [Function.update_of_ne same] at filed
      exact registered.services key other filed

/-- A server without services has nothing to be found. -/
theorem registered_empty : Registered (Server.empty : Server σ μ) := by
  refine ⟨?_, ?_⟩
  · intro key method filed
    cases filed
  · intro key service filed
    cases filed

/-- However services are added, the maps stay together. -/
theorem registered_addServices {services : List (Service σ μ)} (registered : Registered server)
    (added : addServices services server = some server') : Registered server' := by
  induction services generalizing server with
  | nil =>
      cases added
      exact registered
  | cons service services inductionHypothesis =>
      obtain ⟨between, first, others⟩ := Option.bind_eq_some_iff.mp added
      exact inductionHypothesis (registered_addService registered first) others

/-- A method that is found under some spelling has its service, and the service
has the method: `FindService` cannot fail where `FindMethodDescriptor` did not. -/
theorem findService_of_registered (registered : Registered server)
    (found : server.findMethodDescriptor text = some method) :
    ∃ service, server.findService text = some service ∧
      method ∈ service.descriptor.methodDescriptors ∧
      getServiceMethodName method = camelCase text := by
  obtain ⟨name, service, filed, among⟩ := registered.methods _ method found
  exact ⟨service, by rw [Server.findService, found, Option.bind_some, filed], among, name⟩

/-- What was found once is found after every further service, though by a name
two methods share the later one is found. -/
theorem findMethodDescriptor_mono {services : List (Service σ μ)}
    (added : addServices services server = some server')
    (found : (server.findMethodDescriptor text).isSome) : (server'.findMethodDescriptor text).isSome := by
  induction services generalizing server with
  | nil =>
      cases added
      exact found
  | cons service services inductionHypothesis =>
      obtain ⟨between, first, others⟩ := Option.bind_eq_some_iff.mp added
      obtain ⟨_, rfl⟩ := addService_eq_some.mp first
      exact inductionHypothesis others (foldl_addMethod_isSome (Or.inl found))

/-- Every method of every service that was added is found under every spelling
of its name. -/
theorem findMethodDescriptor_of_added {services : List (Service σ μ)}
    (added : addServices services server = some server') (among : service ∈ services)
    (has : method ∈ service.descriptor.methodDescriptors)
    (spelled : camelCase text = getServiceMethodName method) :
    (server'.findMethodDescriptor text).isSome := by
  induction services generalizing server with
  | nil => cases among
  | cons first services inductionHypothesis =>
      obtain ⟨between, one, others⟩ := Option.bind_eq_some_iff.mp added
      rcases List.mem_cons.mp among with rfl | later
      · obtain ⟨_, rfl⟩ := addService_eq_some.mp one
        apply findMethodDescriptor_mono others
        exact foldl_addMethod_isSome (Or.inr ⟨method, has, spelled.symm⟩)
      · exact inductionHypothesis others later

/-- Services can be added one after the other exactly when no two of them, nor
one of them and one that is there, have the same name in camel case. -/
theorem addServices_isSome_iff {services : List (Service σ μ)} :
    (addServices services server).isSome ↔
      (services.map fun service => getServiceName service.descriptor).Nodup ∧
        ∀ service ∈ services, server.serviceMap (getServiceName service.descriptor) = none := by
  induction services generalizing server with
  | nil => simp [addServices]
  | cons first services inductionHypothesis =>
      rw [addServices, List.map_cons, List.nodup_cons]
      cases added : server.addService first with
      | none =>
          rw [Server.addService] at added
          cases there : server.serviceMap (getServiceName first.descriptor) with
          | none =>
              rw [there] at added
              cases added
          | some other => simp [there]
      | some between =>
          obtain ⟨fresh, rfl⟩ := addService_eq_some.mp added
          rw [Option.bind_some, inductionHypothesis]
          simp only [foldl_addMethod_serviceMap, List.forall_mem_cons]
          constructor
          · rintro ⟨distinct, free⟩
            refine ⟨⟨?_, distinct⟩, fresh, ?_⟩
            · intro again
              obtain ⟨service, among, same⟩ := List.mem_map.mp again
              have taken := free service among
              rw [same, Function.update_self] at taken
              cases taken
            · intro service among
              have kept := free service among
              by_cases same : getServiceName service.descriptor = getServiceName first.descriptor
              · rw [same]
                exact fresh
              · rwa [Function.update_of_ne same] at kept
          · rintro ⟨⟨notAgain, distinct⟩, _, free⟩
            refine ⟨distinct, ?_⟩
            intro service among
            have different : getServiceName service.descriptor ≠ getServiceName first.descriptor := by
              intro same
              apply notAgain
              rw [← same]
              exact List.mem_map_of_mem among
            rw [Function.update_of_ne different]
            exact free service among

/-- A service that is there was there before or is one of those added. -/
theorem addServices_serviceMap {services : List (Service σ μ)} {key : StdString}
    (added : addServices services server = some server') (filed : server'.serviceMap key = some service) :
    server.serviceMap key = some service ∨ service ∈ services := by
  induction services generalizing server with
  | nil =>
      cases added
      exact Or.inl filed
  | cons first services inductionHypothesis =>
      obtain ⟨between, one, others⟩ := Option.bind_eq_some_iff.mp added
      obtain ⟨_, rfl⟩ := addService_eq_some.mp one
      rcases inductionHypothesis others with before | later
      · rw [foldl_addMethod_serviceMap] at before
        simp only [] at before
        by_cases same : key = getServiceName first.descriptor
        · rw [same, Function.update_self] at before
          cases before
          exact Or.inr List.mem_cons_self
        · rw [Function.update_of_ne same] at before
          exact Or.inl before
      · exact Or.inr (List.mem_cons_of_mem first later)

/-- What a server of these services makes of a name: a method that is found
belongs to one of the services, is filed under this name and is what is called;
a name that is not found is that of no method of any of them, and a call of it
gives an error and changes nothing. The error for a missing service is never
given. -/
theorem registry_consistent {services : List (Service σ μ)}
    (added : addServices services .empty = some server)
    (text : StdString) :
    (∃ method service, server.findMethodDescriptor text = some method ∧
      server.findService text = some service ∧
      service ∈ services ∧ method ∈ service.descriptor.methodDescriptors ∧
      getServiceMethodName method = camelCase text ∧ ∀ request response shared,
        server.callMethod text request response shared = service.callMethod method request shared) ∨
    server.findMethodDescriptor text = none ∧ server.findService text = none ∧
      (∀ service ∈ services, ∀ method ∈ service.descriptor.methodDescriptors,
        getServiceMethodName method ≠ camelCase text) ∧ ∀ request response shared,
        server.callMethod text request response shared =
          ({ text := ascii "rpc: can't find method " ++ text }, response, shared) := by
  cases found : server.findMethodDescriptor text with
  | some method =>
      obtain ⟨service, there, has, name⟩ := findService_of_registered
        (registered_addServices registered_empty added) found
      have filed : server.findServiceOf method = some service := by
        rw [Server.findService, found, Option.bind_some] at there
        exact there
      have among : service ∈ services := by
        rcases addServices_serviceMap added filed with before | now
        · cases before
        · exact now
      refine Or.inl ⟨method, service, rfl, there, among, has, name, ?_⟩
      intro request response shared
      simp only [Server.callMethod, found, filed]
  | none =>
      refine Or.inr ⟨rfl, ?_, ?_, ?_⟩
      · rw [Server.findService, found]
        rfl
      · intro service among method has name
        have present := findMethodDescriptor_of_added added among has name.symm
        rw [found] at present
        cases present
      · intro request response shared
        simp only [Server.callMethod, found]

/-!
### A server that answers what it was asked

One service with one method, whose answer is the request. The modules behind
this one use it as their example.
-/

/-- Messages that are their own bytes. -/
def plainType : MessageType StdString := { serializeToString := some, parseFromString := some }

/-- Packing that packs nothing. -/
def plainSnappy : Snappy := { compress := fun data => data, uncompress := some }

/-- Its one method answers with the request, and what is shared counts the calls. -/
def echoService : Service Nat StdString :=
  { descriptor := { name := ascii "echo", methods := [ascii "say"] }
    requestPrototype := fun _ => plainType
    responsePrototype := fun _ => plainType
    callMethod := fun _ request calls => (.nil, request, calls + 1) }

def echoMethod : MethodDescriptor := { service := ascii "echo", name := ascii "say" }

def echoServer : Server Nat StdString := (addServices [echoService] .empty).getD .empty

theorem echoServer_added : addServices [echoService] .empty = some echoServer := rfl

/-- A spelling of the name of the method of the echo server. -/
theorem registry_consistent_echo :
    (∃ method service, echoServer.findMethodDescriptor (ascii "echo.say") = some method ∧
      echoServer.findService (ascii "echo.say") = some service ∧ service ∈ [echoService] ∧
      method ∈ service.descriptor.methodDescriptors ∧
      getServiceMethodName method = camelCase (ascii "echo.say") ∧ ∀ request response calls,
        echoServer.callMethod (ascii "echo.say") request response calls =
          service.callMethod method request calls) ∨
    echoServer.findMethodDescriptor (ascii "echo.say") = none ∧
      echoServer.findService (ascii "echo.say") = none ∧
      (∀ service ∈ [echoService], ∀ method ∈ service.descriptor.methodDescriptors,
        getServiceMethodName method ≠ camelCase (ascii "echo.say")) ∧ ∀ request response calls,
        echoServer.callMethod (ascii "echo.say") request response calls =
          ({ text := ascii "rpc: can't find method " ++ ascii "echo.say" }, response, calls) :=
  registry_consistent echoServer_added (ascii "echo.say")

theorem registered_echoServer : Registered echoServer :=
  registered_addServices registered_empty echoServer_added

theorem findMethodDescriptor_echo : echoServer.findMethodDescriptor (ascii "echo.say") = some echoMethod := by
  decide +kernel

/-- The example's server has no method of this name. -/
theorem findMethodDescriptor_sing : echoServer.findMethodDescriptor (ascii "echo.sing") = none := by
  decide +kernel

end Q3df.Rpc
