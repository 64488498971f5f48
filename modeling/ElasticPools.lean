import ElasticPools.Main
import ElasticPools.Json.Decode
import ElasticPools.Metrics
import ElasticPools.Metrics.Exposition
import ElasticPools.Proofs.Debounce
import ElasticPools.Proofs.Starvation
import ElasticPools.Proofs.Candidacy
import ElasticPools.Proofs.Seeding
import ElasticPools.Proofs.Agreement
import ElasticPools.Proofs.Independence
import ElasticPools.Proofs.Metrics
import ElasticPools.Proofs.Repetition
import ElasticPools.Proofs.Capacity
import ElasticPools.Proofs.StreakLength
import ElasticPools.Proofs.Untracked
import ElasticPools.Proofs.TargetAccounts
import ElasticPools.Proofs.Protection
import ElasticPools.Proofs.Emptying
import ElasticPools.Proofs.Setbacks
import ElasticPools.Proofs.Growth
import ElasticPools.Proofs.Episodes
import ElasticPools.Proofs.Requests
import ElasticPools.Proofs.Steadiness
import ElasticPools.Proofs.Reordering
import ElasticPools.Proofs.Acceptance
import ElasticPools.Proofs.Schedule
import ElasticPools.Proofs.Filling
import ElasticPools.Proofs.Windows
import ElasticPools.Proofs.Registration
import ElasticPools.Proofs.Renaming
import ElasticPools.Proofs.Readings
